import BearerAuth.Client.Settings

/-!
# Client options

An option changes the settings. Options run in the order of their ranks, and those of one rank in
the order in which they were given; after all have run, those that depend on the work of others run
once more, in the same order (`ClientOption.schedule`).
-/

namespace BearerAuth

/-- A change of the settings. -/
structure ClientOption (σ : Type) where
  /-- Options of lower rank run first. -/
  rank : Nat
  /-- Whether it reads what other options write. -/
  dependent : Bool
  apply : Settings σ → Settings σ

namespace ClientOption

/-- The ranks of the common options. -/
structure Ranks where
  development : Nat
  logger : Nat
  transport : Nat
  timeout : Nat
  trace : Nat

/-- Those that others read come first. -/
def ranks : Ranks :=
  ⟨100, 200, 300, 400, 500⟩

variable {σ : Type}

/-- Turns on development mode. -/
def development : ClientOption σ :=
  ⟨ranks.development, false, fun s => { s with development := true }⟩

/-- Sends records to a logger. -/
def logger (l : Logger) : ClientOption σ :=
  ⟨ranks.logger, false, fun s => { s with logger := l }⟩

/-- Has requests carried by a transport of one's own. -/
def transport (t : Transport σ) : ClientOption σ :=
  ⟨ranks.transport, false, fun s => { s with transport := some t }⟩

/-- Sets the deadline of requests that have none. -/
def timeout (d : Time.Duration) : ClientOption σ :=
  ⟨ranks.timeout, false, fun s => { s with timeout := some d }⟩

/-- Installs the hook that is made from the settings. -/
def trace (make : Settings σ → Hook) : ClientOption σ :=
  ⟨ranks.trace, true, fun s => { s with trace := some (make s) }⟩

/-- Writes milestones to the logger of the settings, at a level of one's own. -/
def loggingTrace (level : Level) : ClientOption σ :=
  trace fun s => .logging s.logger level

/-- The common option to have milestones in the log. -/
def loggingRequestTrace : ClientOption σ :=
  loggingTrace .debug

def shown (o : ClientOption σ) : String :=
  Text.composed "ClientOption"
    [("rank", "OptionRank(" ++ o.rank.repr ++ ")"), ("dependent", Text.flag o.dependent)]

/-- Options in the order of their ranks, each with its place in the list. -/
def ranked (options : List (ClientOption σ)) : List (ClientOption σ × Nat) :=
  options.zipIdx.mergeSort fun a b => a.1.rank ≤ b.1.rank

/-- The order in which options run. -/
def schedule (options : List (ClientOption σ)) : List (ClientOption σ × Nat) :=
  ranked options ++ (ranked options).filter (·.1.dependent)

/-- One run of an option: its place in the list, and the settings that it found. -/
structure Application (σ : Type) where
  option : ClientOption σ
  place : Nat
  found : Settings σ

/-- The runs of scheduled options. -/
def applications (s : Settings σ) : List (ClientOption σ × Nat) → List (Application σ)
  | [] => []
  | (o, place) :: later => ⟨o, place, s⟩ :: applications (o.apply s) later

/-- The settings after all options have run. -/
def applyAll (s : Settings σ) (options : List (ClientOption σ)) : Settings σ :=
  (schedule options).foldl (fun s (o, _) => o.apply s) s

end ClientOption

end BearerAuth
