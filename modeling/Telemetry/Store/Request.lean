import Telemetry.Store.Basic

/-!
# Requests to a store

All that a store is asked to do: the actions, the subscriptions, another renderer, and
questions about what it holds. When it has last changed is not among the questions.

* `Question`, `Store.answer`: the questions, and the answers;
* `Request`, `Store.serve`: what is asked of a store, the store afterwards, and its reply;
* `Store.serveAll`: requests that are served one after the other.
-/

namespace Telemetry

/-- A question about what a store holds. -/
inductive Question where
  /-- The order in which spans are shown. -/
  | order
  | shownSpans
  | shownSpan (position : Nat)
  | shownTrace (position : Nat)
  | shownLogs
  | shownLog (position : Nat)
  | shownMetrics
  | shownMetric (position : Nat)
  /-- The representatives of all pairs, shown or not. -/
  | heldSpans
  | heldLogs
  | heldMetrics
  | spansOfTrace (traceId : TraceId)
  | spansOfPair (pair : Pair)
  | hasError (pair : Pair)
  | span (spanId : SpanId)
  | representative (pair : Pair)
  /-- All spans of the index, with the numbers of spans and of traces in it. -/
  | indexedSpans
  | logsOfTrace (traceId : TraceId)
  | logsOfSpan (traceId : TraceId) (spanId : SpanId)
  /-- All logs of the index, with the number of traces in it. -/
  | indexedLogs
  | metricsOf (service name : String)
  | serviceNames
  | metricNames (service : String)
  /-- All metrics of the index. -/
  | indexedMetrics
  | callGraph
  | diagram
  | summary

/-- The kind of answer that a question has. -/
def Question.Answer : Question → Type
  | .order => SpanOrder
  | .shownSpans | .heldSpans => List SpanRecord
  | .shownSpan _ | .span _ | .representative _ => Option SpanRecord
  | .shownTrace _ => Option TraceId
  | .shownLogs | .heldLogs | .logsOfSpan _ _ => List LogRecord
  | .shownLog _ => Option LogRecord
  | .shownMetrics | .heldMetrics | .indexedMetrics => List MetricRecord
  | .shownMetric _ => Option MetricRecord
  | .spansOfTrace _ | .spansOfPair _ => Option (List SpanRecord)
  | .hasError _ => Option Bool
  | .indexedSpans => List SpanRecord × Nat × Nat
  | .logsOfTrace _ => Option (List LogRecord)
  | .indexedLogs => List LogRecord × Nat
  | .metricsOf _ _ => Option (List MetricRecord)
  | .serviceNames | .metricNames _ => List String
  | .callGraph => CallGraph
  | .diagram => Except RenderError String
  | .summary => String

/-- What is asked of a store. -/
inductive Request where
  | act (action : Action)
  | subscribeAdded (label : String)
  | subscribeFlushed (label : String)
  | setRenderer (renderer : Renderer)
  | ask (question : Question)

/-- What a store replies. -/
inductive Reply where
  /-- The span that an action gives back, and the news of the action. -/
  | acted (root : Option SpanRecord) (news : List Notice)
  | settled
  | answered (question : Question) (answer : question.Answer)

namespace Store

/-- The answer to a question. -/
def answer (s : Store) : (q : Question) → q.Answer
  | .order => s.spans.order
  | .shownSpans => s.spans.shown
  | .shownSpan position => s.spans.shown[position]?
  | .shownTrace position => s.spans.shown[position]?.map (·.traceId)
  | .shownLogs => s.logs.shown
  | .shownLog position => s.logs.shown[position]?
  | .shownMetrics => s.metrics.shown
  | .shownMetric position => s.metrics.shown[position]?
  | .heldSpans => s.spans.held
  | .heldLogs => s.logs.held
  | .heldMetrics => s.metrics.held
  | .spansOfTrace traceId => s.spans.index.spansOfTrace? traceId
  | .spansOfPair pair => s.spans.index.spansOfPair? pair
  | .hasError pair => s.spans.index.hasError? pair
  | .span spanId => s.spans.index.span? spanId
  | .representative pair => s.spans.index.representative? pair
  | .indexedSpans => (s.spans.index.iter, s.spans.index.spanCount, s.spans.index.traceCount)
  | .logsOfTrace traceId => s.logs.index.logsOfTrace? traceId
  | .logsOfSpan traceId spanId => s.logs.index.logsOfSpan traceId spanId
  | .indexedLogs => (s.logs.index.iter, s.logs.index.traceCount)
  | .metricsOf service name => s.metrics.index.metricsOf? service name
  | .serviceNames => s.metrics.index.serviceNames
  | .metricNames service => s.metrics.index.metricNames service
  | .indexedMetrics => s.metrics.index.iter
  | .callGraph => s.callGraph
  | .diagram => s.diagram
  | .summary => s.summary

/-- Serves a request: the store afterwards, and the reply. -/
def serve (s : Store) : Request → Store × Reply
  | .act action =>
    let (s, root, news) := s.act action
    (s, .acted root news)
  | .subscribeAdded label => (s.subscribeAdded label, .settled)
  | .subscribeFlushed label => (s.subscribeFlushed label, .settled)
  | .setRenderer renderer => (s.setRenderer renderer, .settled)
  | .ask question => (s, .answered question (s.answer question))

/-- Serves requests one after the other: the store afterwards, and the replies. -/
def serveAll (s : Store) : List Request → Store × List Reply
  | [] => (s, [])
  | r :: rest =>
    let (s, reply) := s.serve r
    let (s, later) := serveAll s rest
    (s, reply :: later)

end Store

end Telemetry
