import Telemetry.Proofs.Codec.Canonical
import Telemetry.Proofs.Codec.Laws

/-!
# Spans and logs read back

A record is read back if each of its fields finds the member of its name, and reads the
value that the member was written of. A record is taken apart first, so that the reading
of its fields and the record have the same form; the fields stand from the last one to the
first.

* `Resource.undoes`, `Scope.undoes`: what records come with;
* `Span.undoes`, `Log.undoes`: the records.
-/

namespace Telemetry

open Decoder Fields Reading

theorem Resource.undoes : ∀ r : Resource, Resource.decoder.Undoes Resource.toJson r
  | ⟨attributes, dropped⟩ =>
    undoes_record rfl (Resource.canonical_toJson _) fun _ =>
      seq_eq_ok (optional_eq_ok (undoes_uint32 dropped) rfl) <|
      map_eq_ok (optional_eq_ok (undoes_attributes attributes) rfl)

theorem Scope.undoes : ∀ s : Scope, Scope.decoder.Undoes Scope.toJson s
  | ⟨name, version, attributes⟩ =>
    undoes_record rfl (Scope.canonical_toJson _) fun _ =>
      seq_eq_ok (optional_eq_ok (undoes_attributes attributes) rfl) <|
      seq_eq_ok (optional_eq_ok (undoes_string version) rfl) <|
      map_eq_ok (optional_eq_ok (undoes_string name) rfl)

/-! ## Spans -/

theorem SpanKind.undoes (k : SpanKind) : SpanKind.decoder.Undoes (fun k => .str k.name) k :=
  undoes_name (by cases k <;> decide) (by decide)

theorem StatusCode.undoes (c : StatusCode) : StatusCode.decoder.Undoes (fun c => .str c.name) c :=
  undoes_name (by cases c <;> decide) (by decide)

theorem Status.undoes : ∀ s : Status, Status.decoder.Undoes Status.toJson s
  | ⟨code, message⟩ =>
    undoes_record rfl (Status.canonical_toJson _) fun _ =>
      seq_eq_ok (optional_eq_ok (undoes_string message) rfl) <|
      map_eq_ok (optional_eq_ok code.undoes rfl)

theorem SpanEvent.undoes : ∀ e : SpanEvent, SpanEvent.decoder.Undoes SpanEvent.toJson e
  | ⟨name, time, attributes⟩ =>
    undoes_record rfl (SpanEvent.canonical_toJson _) fun _ =>
      seq_eq_ok (optional_eq_ok (undoes_attributes attributes) rfl) <|
      seq_eq_ok (required_eq_ok (undoes_instant time) rfl) <|
      map_eq_ok (required_eq_ok (undoes_string name) rfl)

theorem Span.undoes : ∀ s : Span, Span.decoder.Undoes Span.toJson s
  | ⟨traceId, spanId, parentSpanId, traceState, name, kind, startTime, endTime, attributes,
      events, status⟩ =>
    undoes_record rfl (Span.canonical_toJson _) fun _ =>
      seq_eq_ok (optional_eq_ok status.undoes rfl) <|
      seq_eq_ok (optional_eq_ok (undoes_list fun e (_ : e ∈ events) => e.undoes) rfl) <|
      seq_eq_ok (optional_eq_ok (undoes_attributes attributes) rfl) <|
      seq_eq_ok (required_eq_ok (undoes_instant endTime) rfl) <|
      seq_eq_ok (required_eq_ok (undoes_instant startTime) rfl) <|
      seq_eq_ok (optional_eq_ok kind.undoes rfl) <|
      seq_eq_ok (required_eq_ok (undoes_string name) rfl) <|
      seq_eq_ok (optional_eq_ok (undoes_string traceState) rfl) <|
      seq_eq_ok (optional_eq_ok (undoes_id parentSpanId) rfl) <|
      seq_eq_ok (required_eq_ok (undoes_id spanId) rfl) <|
      map_eq_ok (required_eq_ok (undoes_id traceId) rfl)

/-! ## Logs -/

theorem Log.undoes : ∀ l : Log, Log.decoder.Undoes Log.toJson l
  | ⟨time, observedTime, severityNumber, severityText, body, attributes, traceId, spanId,
      flags⟩ =>
    undoes_record rfl (Log.canonical_toJson _) fun _ =>
      seq_eq_ok (optional_eq_ok (undoes_uint32 flags) rfl) <|
      seq_eq_ok (optional_eq_ok (undoes_id spanId) rfl) <|
      seq_eq_ok (optional_eq_ok (undoes_id traceId) rfl) <|
      seq_eq_ok (optional_eq_ok (undoes_attributes attributes) rfl) <|
      seq_eq_ok (optional_eq_ok (undoes_string body) rfl) <|
      seq_eq_ok (optional_eq_ok (undoes_string severityText) rfl) <|
      seq_eq_ok (optional_eq_ok (undoes_int32 severityNumber) rfl) <|
      seq_eq_ok (optional_eq_ok (undoes_option_instant observedTime) rfl) <|
      map_eq_ok (required_eq_ok (undoes_instant time) rfl)

end Telemetry
