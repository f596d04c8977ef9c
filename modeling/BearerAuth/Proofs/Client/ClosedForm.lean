import BearerAuth.Proofs.Client.Schedule
import BearerAuth.Proofs.LastWrite

/-!
# What common options come to

Common options run kind by kind, and those that make a hook once more at the end
(`map_fst_schedule_map`). Each kind but the last writes one field, whatever it finds there, so the
last option of a kind decides its field (`get_runAll`). A hook does not depend on the one that it
replaces, and when it is made for the last time all other fields are final
(`applyAll_map_option_eq`). So what is left can be read off the list, kind by kind
(`common_options_closed_form`).
-/

namespace BearerAuth

attribute [ext] Settings

namespace ClientOption

variable {σ : Type}

/-- The kinds of common options, in the order in which they run. -/
inductive Kind
  | development
  | logger
  | transport
  | timeout
  | trace
  deriving DecidableEq, Repr

def Kind.rank : Kind → Nat
  | development => ranks.development
  | logger => ranks.logger
  | transport => ranks.transport
  | timeout => ranks.timeout
  | trace => ranks.trace

/-- A way to make a hook from the settings that does not look at the hook that is there. -/
structure HookMaker (σ : Type) where
  make : Settings σ → Hook
  make_trace : ∀ s hook, make { s with trace := hook } = make s

def HookMaker.logging (level : Level) : HookMaker σ :=
  ⟨fun s => .logging s.logger level, fun _ _ => rfl⟩

/-- A common option, by what it is given. -/
inductive Common (σ : Type)
  | development
  | logger (l : Logger)
  | transport (t : Transport σ)
  | timeout (d : Time.Duration)
  | trace (m : HookMaker σ)

namespace Common

def kind : Common σ → Kind
  | development => .development
  | logger _ => .logger
  | transport _ => .transport
  | timeout _ => .timeout
  | trace _ => .trace

def option : Common σ → ClientOption σ
  | development => ClientOption.development
  | logger l => ClientOption.logger l
  | transport t => ClientOption.transport t
  | timeout d => ClientOption.timeout d
  | trace m => ClientOption.trace m.make

example : (trace (.logging .debug) : Common σ).option = loggingRequestTrace := rfl

def logger? : Common σ → Option Logger
  | logger l => some l
  | _ => none

def transport? : Common σ → Option (Transport σ)
  | transport t => some t
  | _ => none

def timeout? : Common σ → Option Time.Duration
  | timeout d => some d
  | _ => none

def maker? : Common σ → Option (HookMaker σ)
  | trace m => some m
  | _ => none

theorem rank_option (o : Common σ) : o.option.rank = o.kind.rank := by
  cases o <;> rfl

theorem dependent_option (o : Common σ) : o.option.dependent = decide (o.kind = .trace) := by
  cases o <;> rfl

end Common

def Kind.all : List Kind :=
  [development, logger, transport, timeout, trace]

theorem Kind.all_pairwise : Kind.all.Pairwise fun k k' => k.rank < k'.rank := by
  decide

theorem Kind.rank_inj {k k' : Kind} (h : k.rank = k'.rank) : k = k' := by
  revert h
  cases k <;> cases k' <;> decide

def ofKind (os : List (Common σ)) (k : Kind) : List (Common σ) :=
  os.filter (·.kind = k)

/-- The options in the order in which they run first. -/
def byKind (os : List (Common σ)) : List (Common σ) :=
  Kind.all.flatMap (ofKind os)

section Order

variable (os : List (Common σ))

variable {os} in
theorem kind_of_mem_ofKind {o : Common σ} {k : Kind} (h : o ∈ ofKind os k) : o.kind = k := by
  simpa using (List.mem_filter.1 h).2

theorem pairwise_byKind : (byKind os).Pairwise fun a b => a.kind.rank ≤ b.kind.rank := by
  refine List.pairwise_flatMap.2
    ⟨fun k _ => List.pairwise_of_forall_mem_list fun a ha b hb => Nat.le_of_eq ?_,
      Kind.all_pairwise.imp fun {k k'} hlt a ha b hb => ?_⟩
  · rw [kind_of_mem_ofKind ha, kind_of_mem_ofKind hb]
  · rw [kind_of_mem_ofKind ha, kind_of_mem_ofKind hb]
    exact Nat.le_of_lt hlt

theorem ofKind_ofKind (k k' : Kind) :
    ofKind (ofKind os k) k' = if k = k' then ofKind os k else [] := by
  split_ifs with h
  · exact List.filter_eq_self.2 fun o ho => by simp [kind_of_mem_ofKind ho, h]
  · exact List.filter_eq_nil_iff.2 fun o ho => by simp [kind_of_mem_ofKind ho, h]

theorem ofKind_byKind (k : Kind) : ofKind (byKind os) k = ofKind os k := by
  have hblocks : ofKind (byKind os) k = Kind.all.flatMap fun k' => ofKind (ofKind os k') k :=
    List.filter_flatMap
  rw [hblocks]
  simp only [ofKind_ofKind]
  cases k <;> simp [Kind.all]

theorem mem_byKind {o : Common σ} : o ∈ byKind os ↔ o ∈ os := by
  have hall : ∀ k : Kind, k ∈ Kind.all := by
    intro k
    cases k <;> decide
  simp [byKind, ofKind, hall]

theorem filter_rank_byKind (rank : Nat) :
    (byKind os).filter (·.kind.rank = rank) = os.filter (·.kind.rank = rank) := by
  by_cases h : ∃ k : Kind, k.rank = rank
  · obtain ⟨k, rfl⟩ := h
    have hkind : ∀ xs : List (Common σ), xs.filter (·.kind.rank = k.rank) = ofKind xs k :=
      fun xs => List.filter_congr fun o _ => by
        simp only [decide_eq_decide]
        exact ⟨Kind.rank_inj, congrArg Kind.rank⟩
    rw [hkind, hkind, ofKind_byKind]
  · have hnone : ∀ xs : List (Common σ), xs.filter (·.kind.rank = rank) = [] :=
      fun xs => List.filter_eq_nil_iff.2 fun o _ ho => h ⟨o.kind, by simpa using ho⟩
    rw [hnone, hnone]

/-- Common options run kind by kind, and those that make a hook then run again. -/
theorem map_fst_schedule_map : (schedule (os.map Common.option)).map Prod.fst
    = (byKind os ++ ofKind os .trace).map Common.option := by
  have hrank : ∀ (xs : List (Common σ)) (rank : Nat), (xs.map Common.option).filter (·.rank = rank)
      = (xs.filter (·.kind.rank = rank)).map Common.option := fun xs rank => by
    simp only [List.filter_map, Function.comp_def, Common.rank_option]
  have hfirst : (ranked (os.map Common.option)).map Prod.fst = (byKind os).map Common.option := by
    refine eq_of_filter_rank_eq ?_ ?_ fun rank => ?_
    · exact (ranked_pairwise _).map _ fun _ _ h => h
    · refine (pairwise_byKind os).map _ fun a b h => ?_
      rwa [Common.rank_option, Common.rank_option]
    · rw [filter_map_fst_ranked, hrank, hrank, filter_rank_byKind]
  have hagain : ((byKind os).map Common.option).filter (·.dependent)
      = (ofKind os .trace).map Common.option := by
    rw [← ofKind_byKind os, List.filter_map]
    simp only [Function.comp_def, Common.dependent_option]
    rfl
  rw [map_fst_schedule, hfirst, hagain, List.map_append]

end Order

/-- The settings after common options have run one after another. -/
def runAll (s : Settings σ) (os : List (Common σ)) : Settings σ :=
  os.foldl (fun s o => o.option.apply s) s

section Fields

variable (s : Settings σ) (os : List (Common σ))

theorem applyAll_map_option :
    applyAll s (os.map Common.option) = runAll (runAll s (byKind os)) (ofKind os .trace) := by
  rw [applyAll_eq, map_fst_schedule_map, List.foldl_map, List.foldl_append]
  rfl

theorem runAll_append_singleton (o : Common σ) :
    runAll s (os ++ [o]) = o.option.apply (runAll s os) := by
  rw [runAll, List.foldl_append]
  rfl

/-- Where options write a field whatever they find, the last of those that do decides it. -/
theorem get_runAll {β : Type} {get : Settings σ → β} {write? : Common σ → Option β}
    (h : ∀ o s, get (o.option.apply s) = (write? o).getD (get s)) :
    get (runAll s os) = (os.filterMap write?).getLast?.getD (get s) :=
  get_foldl get (fun s o => h o s) os s

theorem development_runAll : (runAll s os).development
    = (s.development || os.any (·.kind = .development)) := by
  induction os using List.reverseRecOn with
  | nil => exact (Bool.or_false _).symm
  | append_singleton os o ih =>
    rw [runAll_append_singleton, List.any_append, ← Bool.or_assoc, ← ih]
    cases o <;> simp [Common.option, Common.kind, ClientOption.development, ClientOption.logger,
      ClientOption.transport, ClientOption.timeout, ClientOption.trace]

/-- Options that make hooks change nothing else, and the last of them makes the hook. -/
theorem runAll_traces (h : ∀ o ∈ os, o.kind = .trace) : runAll s os
    = { s with trace := ((os.filterMap Common.maker?).getLast?.map (·.make s)).or s.trace } := by
  induction os using List.reverseRecOn with
  | nil => rfl
  | append_singleton os o ih =>
    have ho : o.kind = .trace := h o (List.mem_append_right _ (List.mem_singleton_self o))
    rw [runAll_append_singleton, ih fun o ho => h o (List.mem_append_left _ ho)]
    cases o with
    | trace m =>
      have hlast : (os ++ [Common.trace m]).filterMap Common.maker?
          = os.filterMap Common.maker? ++ [m] := List.filterMap_append
      simp only [Common.option, ClientOption.trace, m.make_trace, hlast, List.getLast?_concat,
        Option.map_some, Option.some_or]
    | _ => cases ho

/-- What is only read off options of one kind is read off them in the order of the list. -/
theorem filterMap_byKind {β : Type} {f : Common σ → Option β} {k : Kind}
    (hf : ∀ o b, f o = some b → o.kind = k) : (byKind os).filterMap f = os.filterMap f := by
  have hkind : ∀ xs : List (Common σ), xs.filterMap f = (ofKind xs k).filterMap f := fun xs => by
    rw [ofKind, List.filterMap_filter]
    refine List.filterMap_congr fun o _ => ?_
    by_cases ho : o.kind = k
    · simp [ho]
    · have hnone : f o = none := Option.eq_none_iff_forall_ne_some.2 fun b hb => ho (hf o b hb)
      simp [ho, hnone]
  rw [hkind, ofKind_byKind, ← hkind]

theorem trace_runAll_of_nil (h : os.filterMap Common.maker? = []) :
    (runAll s os).trace = s.trace := by
  induction os using List.reverseRecOn with
  | nil => rfl
  | append_singleton os o ih =>
    rw [List.filterMap_append, List.append_eq_nil_iff] at h
    rw [runAll_append_singleton, ← ih h.1]
    cases o with
    | trace m => cases h.2
    | _ => rfl

end Fields

section Final

variable (s : Settings σ) (os : List (Common σ))

/-- All options but those that make a hook have done their work when these run again. -/
theorem applyAll_map_option_eq : applyAll s (os.map Common.option)
    = { runAll s (byKind os) with
        trace := ((os.filterMap Common.maker?).getLast?.map (·.make (runAll s (byKind os)))).or
          (runAll s (byKind os)).trace } := by
  have hmakers : (ofKind os .trace).filterMap Common.maker? = os.filterMap Common.maker? := by
    rw [ofKind, List.filterMap_filter]
    exact List.filterMap_congr fun o _ => by cases o <;> rfl
  rw [applyAll_map_option, runAll_traces _ _ fun o ho => kind_of_mem_ofKind ho, hmakers]

theorem development_applyAll : (applyAll s (os.map Common.option)).development
    = (s.development || os.any (·.kind = .development)) := by
  have hany : (byKind os).any (·.kind = .development) = os.any (·.kind = .development) := by
    rw [Bool.eq_iff_iff, List.any_eq_true, List.any_eq_true]
    simp only [mem_byKind]
  rw [applyAll_map_option_eq, ← hany, ← development_runAll]

/-- A field that only options of one kind write, and all of them, is what the last of them says. -/
theorem get_applyAll {β : Type} {get : Settings σ → β} (write? : Common σ → Option β) (k : Kind)
    (hget : ∀ s hook, get { s with trace := hook } = get s)
    (hwrite : ∀ o s, get (o.option.apply s) = (write? o).getD (get s))
    (hkind : ∀ o b, write? o = some b → o.kind = k) :
    get (applyAll s (os.map Common.option))
      = (os.filterMap write?).getLast?.getD (get s) := by
  rw [applyAll_map_option_eq, hget, get_runAll s _ hwrite, filterMap_byKind os hkind]

theorem get_applyAll_or {β : Type} {get : Settings σ → Option β} (write? : Common σ → Option β)
    (k : Kind) (hget : ∀ s hook, get { s with trace := hook } = get s)
    (hwrite : ∀ o s, get (o.option.apply s) = (write? o).or (get s))
    (hkind : ∀ o b, write? o = some b → o.kind = k) :
    get (applyAll s (os.map Common.option)) = (os.filterMap write?).getLast?.or (get s) := by
  have hor : ∀ a b : Option β, (a.map some).getD b = a.or b := by
    intro a b
    cases a <;> rfl
  have hkind' : ∀ o b, (write? o).map some = some b → o.kind = k := by
    intro o b h
    obtain ⟨b, hb, -⟩ := Option.map_eq_some_iff.1 h
    exact hkind o b hb
  rw [get_applyAll s os (fun o => (write? o).map some) k hget
    (fun o s => by rw [hwrite, hor]) hkind', ← List.map_filterMap, List.getLast?_map, hor]

theorem logger_applyAll : (applyAll s (os.map Common.option)).logger
    = (os.filterMap Common.logger?).getLast?.getD s.logger :=
  get_applyAll s os Common.logger? .logger (fun _ _ => rfl) (fun o _ => by cases o <;> rfl)
    fun o _ h => by
      cases o <;> cases h
      rfl

theorem transport_applyAll : (applyAll s (os.map Common.option)).transport
    = (os.filterMap Common.transport?).getLast?.or s.transport :=
  get_applyAll_or s os Common.transport? .transport (fun _ _ => rfl) (fun o _ => by cases o <;> rfl)
    fun o _ h => by
      cases o <;> cases h
      rfl

theorem timeout_applyAll : (applyAll s (os.map Common.option)).timeout
    = (os.filterMap Common.timeout?).getLast?.or s.timeout :=
  get_applyAll_or s os Common.timeout? .timeout (fun _ _ => rfl) (fun o _ => by cases o <;> rfl)
    fun o _ h => by
      cases o <;> cases h
      rfl

theorem trace_applyAll : (applyAll s (os.map Common.option)).trace
    = ((os.filterMap Common.maker?).getLast?.map
        (·.make (applyAll s (os.map Common.option)))).or s.trace := by
  have hmakers : (byKind os).filterMap Common.maker? = os.filterMap Common.maker? :=
    filterMap_byKind os (k := .trace) fun o m h => by
      cases o <;> cases h
      rfl
  rw [applyAll_map_option_eq]
  rcases hlast : (os.filterMap Common.maker?).getLast? with _ | m
  · rw [List.getLast?_eq_none_iff] at hlast
    simp only [Option.map_none, Option.none_or]
    exact trace_runAll_of_nil s _ (hmakers.trans hlast)
  · simp only [Option.map_some, Option.some_or, m.make_trace]

variable {os} in
theorem applyAll_map_option_congr {os' : List (Common σ)} (h : ∀ k, ofKind os' k = ofKind os k) :
    applyAll s (os'.map Common.option) = applyAll s (os.map Common.option) := by
  have hkinds : byKind os' = byKind os := List.flatMap_congr fun k _ => h k
  rw [applyAll_map_option, applyAll_map_option, hkinds, h]

/-- What options come to is what they come to when they run on it. -/
theorem applyAll_applyAll :
    applyAll (applyAll s (os.map Common.option)) (os.map Common.option)
      = applyAll s (os.map Common.option) := by
  have hexcept : applyAll (applyAll s (os.map Common.option)) (os.map Common.option)
      = { applyAll s (os.map Common.option) with
          trace := (applyAll (applyAll s (os.map Common.option)) (os.map Common.option)).trace } := by
    refine Settings.ext ?_ ?_ ?_ ?_ rfl
    · show _ = (applyAll s (os.map Common.option)).development
      simp only [development_applyAll, Bool.or_assoc, Bool.or_self]
    · show _ = (applyAll s (os.map Common.option)).logger
      rw [logger_applyAll, logger_applyAll]
      rcases (os.filterMap Common.logger?).getLast? with _ | l <;> rfl
    · show _ = (applyAll s (os.map Common.option)).transport
      simp only [transport_applyAll, ← Option.or_assoc, Option.or_self]
    · show _ = (applyAll s (os.map Common.option)).timeout
      simp only [timeout_applyAll, ← Option.or_assoc, Option.or_self]
  have htrace : (applyAll (applyAll s (os.map Common.option)) (os.map Common.option)).trace
      = (applyAll s (os.map Common.option)).trace := by
    rw [trace_applyAll, hexcept, trace_applyAll s]
    rcases (os.filterMap Common.maker?).getLast? with _ | m
    · rfl
    · simp only [Option.map_some, Option.some_or, m.make_trace]
  rw [hexcept, htrace]

end Final

/-- What common options come to can be read off the list. Development mode is on if it was or if an
option turns it on. The logger, the transport and the deadline are those of the last option of their
kind, and what they were if there is none; the hook is what the last of those that make one makes of
the final settings. So the order of options of different kinds does not matter, and the same options
change nothing when they are applied again. -/
theorem common_options_closed_form (s : Settings σ) (os : List (Common σ)) :
    (applyAll s (os.map Common.option)).development
        = (s.development || os.any (·.kind = .development))
    ∧ (applyAll s (os.map Common.option)).logger
        = (os.filterMap Common.logger?).getLast?.getD s.logger
    ∧ (applyAll s (os.map Common.option)).transport
        = (os.filterMap Common.transport?).getLast?.or s.transport
    ∧ (applyAll s (os.map Common.option)).timeout
        = (os.filterMap Common.timeout?).getLast?.or s.timeout
    ∧ (applyAll s (os.map Common.option)).trace
        = ((os.filterMap Common.maker?).getLast?.map
            (·.make (applyAll s (os.map Common.option)))).or s.trace
    ∧ (∀ os' : List (Common σ), (∀ k, ofKind os' k = ofKind os k) →
        applyAll s (os'.map Common.option) = applyAll s (os.map Common.option))
    ∧ applyAll (applyAll s (os.map Common.option)) (os.map Common.option)
        = applyAll s (os.map Common.option) :=
  ⟨development_applyAll s os, logger_applyAll s os, transport_applyAll s os,
    timeout_applyAll s os, trace_applyAll s os, fun _ => applyAll_map_option_congr s,
    applyAll_applyAll s os⟩

end ClientOption

end BearerAuth
