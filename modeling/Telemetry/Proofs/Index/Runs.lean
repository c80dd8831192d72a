import Telemetry.Proofs.Index.Logs
import Telemetry.Proofs.Index.Metrics

/-!
# The indexes of logs and metrics are lists

Whatever is done to an index of logs or of metrics, reading it gives what a plain list gives
to which the same has been done.

* `Memory`: records by their serial numbers, so that a record can come up again in a run;
* `IndexAction`: what can be done; `LogIndex.run`, `MetricIndex.run`: to an index, and
  `LogIndex.listed`, `MetricIndex.listed`: to a list of numbers;
* `represents_foldl_erase`: deletions from either index and from its list;
* `LogIndex.represents_run`, `MetricIndex.represents_run`: the index of a run represents the
  list of the run;
* `LogIndex.ReadsAs`, `MetricIndex.ReadsAs`: what reading an index gives, by a list;
* `indexes_read_as_lists`: hence all that can be read.
-/

namespace Telemetry

/-- Records by their serial numbers: a record is the very one that has its number. -/
structure Memory (ρ : Type) (serial : ρ → Nat) where
  record : Nat → ρ
  serial_record : ∀ i, serial (record i) = i

/-- What changes an index, with records by their numbers. -/
inductive IndexAction (ε : Type) where
  | insert (entry : ε)
  | delete (records : List Nat)
  | flush

section Deletion

variable {ι ρ σ ε : Type} [BEq ε] [LawfulBEq ε] {represents : ι → List σ → Prop}
  {erase : ι → ρ → ι} {same : ρ → σ → Bool} {record : Nat → ρ} {entry : ε → σ} {key : Nat → ε}

/-- If an index erases a record as the list that it represents does, and that erases it by its
key, then records are deleted from the index as their keys are from the list. -/
theorem represents_foldl_erase
    (herase : ∀ {x l}, represents x l → ∀ r, represents (erase x r) (l.eraseP (same r)))
    (hsame : ∀ i e, same (record i) (entry e) ↔ key i = e) {x : ι} {entries : List ε}
    (h : represents x (entries.map entry)) (records : List Nat) :
    represents ((records.map record).foldl erase x)
      ((records.foldl (fun entries i => entries.erase (key i)) entries).map entry) := by
  rw [List.foldl_map]
  induction records generalizing x entries with
  | nil => exact h
  | cons i records ih =>
    have hi := herase h (record i)
    rw [eraseP_map_of_iff (hsame i)] at hi
    exact ih hi

end Deletion

/-! ## Logs -/

namespace LogIndex

variable (m : Memory LogRecord LogRecord.serial)

/-- The index after an action. -/
def act (x : LogIndex) : IndexAction Nat → LogIndex
  | .insert i => x.insert (m.record i)
  | .delete records => x.delete (records.map m.record)
  | .flush => x.flush

/-- The list after an action: a log of no trace is not taken in, and the first occurrence of
each record is dropped, one record after the other. -/
def actOnList (l : List Nat) : IndexAction Nat → List Nat
  | .insert i => if (m.record i).traceId.isZero then l else l ++ [i]
  | .delete records => records.foldl List.erase l
  | .flush => []

/-- The index that some actions make, one after the other. -/
def run (actions : List (IndexAction Nat)) : LogIndex := actions.foldl (act m) empty

/-- The list that some actions make, one after the other. -/
def listed (actions : List (IndexAction Nat)) : List LogRecord :=
  (actions.foldl (actOnList m) []).map m.record

/-- What reading the index gives, by the list of its logs in the order of arrival: the logs of
a trace, unless there are none; those of a span, none of them of the span that stands for
none; and how many logs and traces there are. -/
structure ReadsAs (x : LogIndex) (l : List LogRecord) : Prop where
  logsOfTrace? : ∀ traceId, x.logsOfTrace? traceId = filled (l.filter fun r => r.traceId = traceId)
  logsOfSpan : ∀ traceId spanId, x.logsOfSpan traceId spanId =
    if spanId.isZero then [] else l.filter fun r => r.traceId = traceId ∧ r.log.spanId = spanId
  size : x.size = l.length
  traceCount : x.traceCount = (l.map (·.traceId)).eraseDups.length
  isEmpty : x.isEmpty ↔ x.size = 0

variable {m} {x : LogIndex} {l : List LogRecord} {is : List Nat}

theorem Represents.delete_records (h : x.Represents (is.map m.record)) (records : List Nat) :
    (x.delete (records.map m.record)).Represents ((records.foldl List.erase is).map m.record) := by
  have hsame : ∀ i j, ((m.record j).serial == (m.record i).serial &&
      decide ((m.record j).traceId = (m.record i).traceId)) ↔ i = j := by
    intro i j
    rw [m.serial_record, m.serial_record, Bool.and_eq_true, beq_iff_eq, decide_eq_true_eq]
    exact ⟨fun hj => hj.1.symm, fun hj => hj ▸ ⟨rfl, rfl⟩⟩
  exact represents_foldl_erase (fun h r => h.erase r) hsame h records

theorem Represents.act (h : x.Represents (is.map m.record)) (a : IndexAction Nat) :
    (x.act m a).Represents ((actOnList m is a).map m.record) := by
  cases a with
  | insert i =>
    have hi := h.insert (m.record i)
    rw [LogIndex.act, actOnList]
    split
    · next hz => simpa [LogRecord.traced, hz] using hi
    · next hz => simpa [LogRecord.traced, hz] using hi
  | delete records => exact h.delete_records records
  | flush => exact represents_empty

theorem represents_run (actions : List (IndexAction Nat)) :
    (run m actions).Represents (listed m actions) :=
  List.foldl_rel (r := fun (x : LogIndex) (is : List Nat) => x.Represents (is.map m.record))
    represents_empty fun a _ _ _ h => h.act a

theorem Represents.readsAs (h : x.Represents l) : x.ReadsAs l where
  logsOfTrace? := h.logsOfTrace?
  logsOfSpan := h.logsOfSpan
  size := h.size
  traceCount := h.traceCount
  isEmpty := by rw [h.isEmpty_iff, h.size, List.length_eq_zero_iff]

end LogIndex

/-! ## Metrics -/

namespace MetricIndex

variable (m : Memory MetricRecord MetricRecord.serial)

/-- The index after an action. A metric is inserted under any service. -/
def act (x : MetricIndex) : IndexAction (String × Nat) → MetricIndex
  | .insert (service, i) => x.insert service (m.record i)
  | .delete records => x.delete (records.map m.record)
  | .flush => x.flush

/-- The list after an action: the first occurrence of each record under its own service is
dropped, one record after the other. -/
def actOnList (l : List (String × Nat)) : IndexAction (String × Nat) → List (String × Nat)
  | .insert entry => l ++ [entry]
  | .delete records => records.foldl (fun l i => l.erase ((m.record i).service, i)) l
  | .flush => []

/-- A metric with the service that it is filed under. -/
def filing (entry : String × Nat) : Filing MetricRecord := ⟨entry.1, m.record entry.2⟩

/-- The index that some actions make, one after the other. -/
def run (actions : List (IndexAction (String × Nat))) : MetricIndex := actions.foldl (act m) empty

/-- The list that some actions make, one after the other. -/
def listed (actions : List (IndexAction (String × Nat))) : List (Filing MetricRecord) :=
  (actions.foldl (actOnList m) []).map (filing m)

/-- What reading the index gives, by the list of its metrics in the order of arrival: the
metrics of a service and name, unless there are none; the services and the names, in the
order of their bytes; and how many metrics there are. -/
structure ReadsAs (x : MetricIndex) (l : List (Filing MetricRecord)) : Prop where
  metricsOf? : ∀ service name, x.metricsOf? service name =
    filled ((l.filter fun f => f.service = service ∧ f.record.name = name).map (·.record))
  serviceNames : ∀ service, service ∈ x.serviceNames ↔ ∃ f ∈ l, f.service = service
  serviceNames_ascending : x.serviceNames.Pairwise fun a b => Text.bytes a < Text.bytes b
  metricNames : ∀ service name,
    name ∈ x.metricNames service ↔ ∃ f ∈ l, f.service = service ∧ f.record.name = name
  metricNames_ascending : ∀ service,
    (x.metricNames service).Pairwise fun a b => Text.bytes a < Text.bytes b
  size : x.size = l.length
  isEmpty : x.isEmpty ↔ x.size = 0

variable {m} {x : MetricIndex} {l : List (Filing MetricRecord)} {entries : List (String × Nat)}

theorem Represents.delete_records (h : x.Represents (entries.map (filing m))) (records : List Nat) :
    (x.delete (records.map m.record)).Represents
      ((records.foldl (fun l i => l.erase ((m.record i).service, i)) entries).map (filing m)) := by
  have hsame : ∀ i entry, ((filing m entry).record.serial == (m.record i).serial &&
      decide ((filing m entry).service = (m.record i).service ∧
        (filing m entry).record.name = (m.record i).name)) ↔ ((m.record i).service, i) = entry := by
    rintro i ⟨service, j⟩
    rw [filing, m.serial_record, m.serial_record, Bool.and_eq_true, beq_iff_eq, decide_eq_true_eq,
      Prod.mk.injEq]
    constructor
    · rintro ⟨rfl, hservice, -⟩
      exact ⟨hservice.symm, rfl⟩
    · rintro ⟨rfl, rfl⟩
      exact ⟨rfl, rfl, rfl⟩
  exact represents_foldl_erase (fun h r => h.erase r) hsame h records

theorem Represents.act (h : x.Represents (entries.map (filing m)))
    (a : IndexAction (String × Nat)) :
    (x.act m a).Represents ((actOnList m entries a).map (filing m)) := by
  cases a with
  | insert entry =>
    rw [actOnList, List.map_append]
    exact h.insert entry.1 (m.record entry.2)
  | delete records => exact h.delete_records records
  | flush => exact represents_empty

theorem represents_run (actions : List (IndexAction (String × Nat))) :
    (run m actions).Represents (listed m actions) :=
  List.foldl_rel
    (r := fun (x : MetricIndex) (entries : List (String × Nat)) => x.Represents (entries.map (filing m)))
    represents_empty fun a _ _ _ h => h.act a

theorem Represents.readsAs (h : x.Represents l) : x.ReadsAs l where
  metricsOf? := h.metricsOf?
  serviceNames _ := h.mem_serviceNames
  serviceNames_ascending := x.serviceNames_ascending
  metricNames _ _ := h.mem_metricNames
  metricNames_ascending := x.metricNames_ascending
  size := h.size
  isEmpty := by rw [h.isEmpty_iff, h.size, List.length_eq_zero_iff]

end MetricIndex

/-- What can be read of an index of logs or of metrics, after any run of insertions, deletions
and flushes, is what can be read of the list after the same run. The same record may come up
in a run at any time and any number of times, and a metric under any service. -/
theorem indexes_read_as_lists (logs : Memory LogRecord LogRecord.serial)
    (metrics : Memory MetricRecord MetricRecord.serial) (logActions : List (IndexAction Nat))
    (metricActions : List (IndexAction (String × Nat))) :
    (LogIndex.run logs logActions).ReadsAs (LogIndex.listed logs logActions) ∧
      (MetricIndex.run metrics metricActions).ReadsAs (MetricIndex.listed metrics metricActions) :=
  ⟨(LogIndex.represents_run logActions).readsAs, (MetricIndex.represents_run metricActions).readsAs⟩

/-- Records that look the same are told apart, and one that came twice and went once stays. -/
example :
    let log := (Log.ofBody "up" default).withTrace ⟨1⟩ .zero
    let m : Memory LogRecord LogRecord.serial := ⟨fun i => ⟨i, log, .empty, .empty⟩, fun _ => rfl⟩
    (LogIndex.listed m [.insert 0, .insert 1, .insert 0, .delete [0, 2]]).map (·.serial) = [1, 0] := by
  decide

end Telemetry
