/-!
# Counters and reports

What a service counts about its channels and its start, and what it reports as an error.

A process has at most one recorder of its counters. An exporter that installs it keeps a handle on
it, through which the counters are read. Where a recorder is installed already, installing another
changes nothing and is no error; an exporter that has never installed one has nothing to read from.
-/

set_option autoImplicit false

namespace MessageChannels

/-- What is counted. -/
inductive Counter where
  | published
  | publishErrors
  | publishDurations
  | received
  | acked
  | nacked
  | deadLettered
  | deadLetterErrors
  | retryAttempts
  | retrySuccesses
  | retriesExhausted
  deriving DecidableEq

/-- The name under which a counter is exported. -/
def Counter.name : Counter → String
  | published => "channel_messages_published_total"
  | publishErrors => "channel_publish_errors_total"
  | publishDurations => "channel_publish_duration_seconds_count"
  | received => "channel_messages_received_total"
  | acked => "channel_messages_acked_total"
  | nacked => "channel_messages_nacked_total"
  | deadLettered => "channel_messages_dead_lettered_total"
  | deadLetterErrors => "channel_dead_letter_errors_total"
  | retryAttempts => "bootstrap_retry_attempts_total"
  | retrySuccesses => "bootstrap_retry_successes_total"
  | retriesExhausted => "bootstrap_retry_exhausted_total"

/-- All counters. -/
def Counter.all : List Counter :=
  [published, publishErrors, publishDurations, received, acked, nacked, deadLettered,
    deadLetterErrors, retryAttempts, retrySuccesses, retriesExhausted]

/-- A count of one under a label, or an error reported with its cause. -/
inductive Note where
  | counted (counter : Counter) (label : String)
  | reported (event : String) (cause : Option String)
  deriving DecidableEq

namespace Note

/-- How often notes count something under a label. -/
def count (notes : List Note) (counter : Counter) (label : String) : Nat :=
  (notes.filter (· = counted counter label)).length

theorem count_append (ns ms : List Note) (counter : Counter) (label : String) :
    count (ns ++ ms) counter label = count ns counter label + count ms counter label := by
  unfold count
  rw [List.filter_append, List.length_append]

/-- The labels under which notes count something, each once. -/
def labels (notes : List Note) (counter : Counter) : List String :=
  (notes.filterMap fun n => match n with
    | counted c label => if c = counter then some label else none
    | reported _ _ => none).eraseDups

/-- The reports among notes. -/
def reports (notes : List Note) : List (String × Option String) :=
  notes.filterMap fun n => match n with
    | reported event cause => some (event, cause)
    | counted _ _ => none

end Note

/-! ## Exporting counters -/

/-- What exports the counters of a process: whether it has a handle on the recorder. -/
structure Exporter where
  hasHandle : Bool
  deriving DecidableEq

namespace Exporter

/-- An exporter that has installed nothing. -/
def new : Exporter := ⟨false⟩

/-- Install a recorder in a process that has one already or not. -/
def install (e : Exporter) (recorderPresent : Bool) : Exporter :=
  if recorderPresent then e else ⟨true⟩

end Exporter

end MessageChannels
