import BearerAuth.Transport.Taking
import Mathlib.Algebra.Ring.Nat
import Mathlib.Data.List.Induction
import Mathlib.Data.List.Perm.Basic

/-!
# One build for all

The caller that has the turn and the filled cell together never number more than one
(`Sound.turns`): while somebody builds, the cell is empty and everybody else has to wait. What was
built for all is in the cell or about to go there (`Sound.kept`), so nothing is built for all a
second time, and whoever reads the cell reads the outcome of the one build. What is built for one
caller goes to that caller (`Sound.made`). Whether a build succeeds is a matter of the configuration
(`takeFresh_cases`), and each build that succeeds has a number of its own (`Numbered`), so the two
sources agree on success, and all fresh transports are distinct (`shared_transport_built_once`).
-/

namespace BearerAuth.Transport

/-- Why no transport can be built from a configuration, if none can. -/
def Config.refusal? (c : Config) : Option TransportError :=
  c.fault?.or c.clientFault?

theorem Builder.build_of_refusal {c : Config} {e : TransportError} (h : c.refusal? = some e)
    (b : Builder) (number : Nat) : b.build c number = .error e := by
  unfold Config.refusal? at h
  unfold build buildOver
  rcases hfault : c.fault? with _ | e'
  · rw [hfault, Option.none_or] at h
    obtain ⟨cause, hcause, rfl⟩ := Option.map_eq_some_iff.1 h
    simp only [hcause]
  · rw [hfault, Option.some_or, Option.some.injEq] at h
    simp only [h]

theorem Builder.build_of_no_refusal {c : Config} (h : c.refusal? = none) (b : Builder)
    (number : Nat) :
    ∃ built, b.build c number = .ok built ∧ built.transport.number = number := by
  obtain ⟨hfault, hclient⟩ := Option.or_eq_none_iff.1 h
  unfold build buildOver
  simp only [hfault, Option.map_eq_none_iff.1 hclient]
  exact ⟨_, rfl, rfl⟩

/-- Either no transport can be taken, or the next one has the next number. -/
theorem Source.takeFresh_cases (source : Source) (s : Source.State) :
    (∃ e, source.config.refusal? = some e ∧ source.takeFresh s = (.error e, s))
    ∨ ∃ t, source.config.refusal? = none ∧ t.number = s.count
      ∧ source.takeFresh s = (.ok t, { s with count := s.count + 1 }) := by
  rcases hrefusal : source.config.refusal? with _ | e
  · obtain ⟨built, hbuilt, hnumber⟩ := source.builder.build_of_no_refusal hrefusal s.count
    refine .inr ⟨built.transport, rfl, hnumber, ?_⟩
    simp only [takeFresh, hbuilt]
  · refine .inl ⟨e, rfl, ?_⟩
    simp only [takeFresh, source.builder.build_of_refusal hrefusal]

theorem Source.first_takeFresh (source : Source) (s : Source.State) :
    (source.takeFresh s).2.first = s.first := by
  rcases source.takeFresh_cases s with ⟨e, -, htake⟩ | ⟨t, -, -, htake⟩ <;> rw [htake]

namespace Taking

def stored? : Taking → Option (Except TransportError Pooled)
  | storing built => some built
  | _ => none

/-- The steps that a call has to take. -/
def remaining : Taking → Nat
  | asking => 5
  | waiting => 4
  | building => 3
  | storing _ => 2
  | reading | requesting => 1
  | served _ | supplied _ => 0

end Taking

namespace Build

def outcome : Build → Except TransportError Pooled
  | forAll built | forOne built => built

def forAll? : Build → Option (Except TransportError Pooled)
  | forAll built => some built
  | forOne _ => none

def forOne? : Build → Option (Except TransportError Pooled)
  | forAll _ => none
  | forOne built => some built

/-- The number of what was built. -/
def number? (b : Build) : Option Nat :=
  b.outcome.toOption.map Pooled.number

end Build

/-- Builds that come of one configuration, numbered in their order. -/
structure Numbered (c : Config) (count : Nat) (builds : List Build) : Prop where
  refused : ∀ e, c.refusal? = some e → ∀ b ∈ builds, b.outcome = .error e
  accepted : c.refusal? = none → ∀ b ∈ builds, ∃ t, b.outcome = .ok t
  ascending : (builds.filterMap Build.number?).Pairwise (· < ·)
  bounded : ∀ n ∈ builds.filterMap Build.number?, n < count

theorem Numbered.take (source : Source) {s : Source.State} {builds : List Build} {b : Build}
    (h : Numbered source.config s.count builds) (hb : b.outcome = (source.takeFresh s).1) :
    Numbered source.config (source.takeFresh s).2.count (builds ++ [b]) := by
  rcases source.takeFresh_cases s with ⟨e, hrefusal, htake⟩ | ⟨t, hrefusal, hnumber, htake⟩
  · rw [htake] at hb ⊢
    have hnone : [b].filterMap Build.number? = [] := by simp [Build.number?, hb, Except.toOption]
    refine ⟨fun e' he' b' hb' => ?_, fun haccepted => ?_, ?_, ?_⟩
    · obtain rfl : e = e' := by simpa [hrefusal] using he'
      rcases List.mem_append.1 hb' with hb' | hb'
      · exact h.refused e hrefusal b' hb'
      · rw [List.mem_singleton.1 hb', hb]
    · simp [hrefusal] at haccepted
    · rw [List.filterMap_append, hnone, List.append_nil]
      exact h.ascending
    · rw [List.filterMap_append, hnone, List.append_nil]
      exact h.bounded
  · rw [htake] at hb ⊢
    have hone : [b].filterMap Build.number? = [s.count] := by
      simp [Build.number?, hb, Except.toOption, hnumber]
    refine ⟨fun e he => ?_, fun _ b' hb' => ?_, ?_, fun n hn => ?_⟩
    · simp [hrefusal] at he
    · rcases List.mem_append.1 hb' with hb' | hb'
      · exact h.accepted hrefusal b' hb'
      · rw [List.mem_singleton.1 hb']
        exact ⟨t, hb⟩
    · rw [List.filterMap_append, hone, List.pairwise_append]
      refine ⟨h.ascending, List.pairwise_singleton _ _, fun n hn m hm => ?_⟩
      rw [List.mem_singleton.1 hm]
      exact h.bounded n hn
    · rw [List.filterMap_append, hone, List.mem_append, List.mem_singleton] at hn
      show n < s.count + 1
      rcases hn with hn | rfl
      · have := h.bounded n hn
        omega
      · omega

namespace Takers

variable (sources : Sources)

theorem step_of_mayStep {w : Takers} {before after : List Taking} {call : Taking}
    (h : w.calls = before ++ call :: after) (hmay : call.mayStep w.calls = true) :
    step sources w before.length = ⟨(advance sources w.state call).1,
      before ++ (advance sources w.state call).2.1 :: after,
      w.builds ++ (advance sources w.state call).2.2⟩ := by
  have hmoving : w.moving? before.length = some call := by
    rw [moving?, Option.filter_eq_some_iff]
    exact ⟨by simp [h], hmay⟩
  simp only [step, hmoving]
  simp [h]

/-- A step that is taken changes one call, as `advance` says. -/
theorem step_cases (w : Takers) (i : Nat) : step sources w i = w ∨
    ∃ before call after, w.calls = before ++ call :: after ∧ call.mayStep w.calls = true
      ∧ step sources w i = ⟨(advance sources w.state call).1,
        before ++ (advance sources w.state call).2.1 :: after,
        w.builds ++ (advance sources w.state call).2.2⟩ := by
  rcases hmoving : w.moving? i with _ | call
  · refine .inl ?_
    simp only [step, hmoving]
  · obtain ⟨hcall, hmay⟩ := Option.filter_eq_some_iff.1 hmoving
    obtain ⟨hlt, hget⟩ := List.getElem?_eq_some_iff.1 hcall
    have hcalls : w.calls = w.calls.take i ++ call :: w.calls.drop (i + 1) := by
      rw [← hget, List.getElem_cons_drop, List.take_append_drop]
    have hlength : (w.calls.take i).length = i := by
      rw [List.length_take]
      omega
    have hstep := step_of_mayStep sources hcalls hmay
    rw [hlength] at hstep
    exact .inr ⟨_, call, _, hcalls, hmay, hstep⟩

/-- What holds of all callers between steps. -/
structure Sound (w : Takers) : Prop where
  turns : w.calls.countP Taking.hasTurn + w.state.first.toList.length ≤ 1
  kept : (w.builds.filterMap Build.forAll?).Perm
    (w.state.first.toList ++ w.calls.filterMap Taking.stored?)
  filled : .reading ∈ w.calls → w.state.first.isSome
  served : ∀ r, .served r ∈ w.calls → ∃ built, w.state.first = some built ∧ r = Source.shared built
  made : (w.builds.filterMap Build.forOne?).Perm w.freshResults
  numbered : Numbered sources.config w.state.count w.builds

theorem sound_gathered (sharing making : Nat) : Sound sources (gathered sharing making) := by
  have hcalls : ∀ call ∈ (gathered sharing making).calls, call = .asking ∨ call = .requesting := by
    intro call hcall
    rcases List.mem_append.1 hcall with hcall | hcall
    · exact .inl (List.eq_of_mem_replicate hcall)
    · exact .inr (List.eq_of_mem_replicate hcall)
  have hnone : ∀ {α : Type} (f : Taking → Option α), f .asking = none → f .requesting = none →
      (gathered sharing making).calls.filterMap f = [] := by
    intro α f hasking hrequesting
    refine List.filterMap_eq_nil_iff.2 fun call hcall => ?_
    rcases hcalls call hcall with rfl | rfl <;> assumption
  refine ⟨?_, ?_, fun h => ?_, fun r h => ?_, ?_, ⟨?_, ?_, ?_, ?_⟩⟩
  · have hturn : (gathered sharing making).calls.countP Taking.hasTurn = 0 := by
      refine List.countP_eq_zero.2 fun call hcall => ?_
      rcases hcalls call hcall with rfl | rfl <;> simp [Taking.hasTurn]
    rw [hturn]
    exact Nat.zero_le 1
  · rw [hnone Taking.stored? rfl rfl]
    exact .refl _
  · rcases hcalls _ h with h | h <;> cases h
  · rcases hcalls _ h with h | h <;> cases h
  · rw [freshResults, hnone _ rfl rfl]
    exact .refl _
  all_goals simp [gathered]

variable {sources} {w : Takers} {before after : List Taking} {call call' : Taking}

theorem mem_calls_of_ne (hcalls : w.calls = before ++ call :: after) {other : Taking}
    (h : other ∈ before ++ call' :: after) : other = call' ∨ other ∈ w.calls := by
  rw [hcalls]
  simp only [List.mem_append, List.mem_cons] at h ⊢
  rcases h with h | rfl | h
  · exact .inr (.inl h)
  · exact .inl rfl
  · exact .inr (.inr (.inr h))

/-- A step that neither builds nor fills the cell nor takes the turn. -/
theorem Sound.replace (h : Sound sources w) (hcalls : w.calls = before ++ call :: after)
    (hturn : call'.hasTurn = call.hasTurn) (hstored : call'.stored? = call.stored?)
    (hsupplied : call'.supplied? = call.supplied?)
    (hfilled : call' = .reading → w.state.first.isSome)
    (hserved : ∀ r, call' = .served r →
      ∃ built, w.state.first = some built ∧ r = Source.shared built) :
    Sound sources ⟨w.state, before ++ call' :: after, w.builds ++ []⟩ := by
  obtain ⟨turns, kept, filled, served, made, numbered⟩ := h
  rw [List.append_nil]
  refine ⟨?_, ?_, fun hmem => ?_, fun r hmem => ?_, ?_, numbered⟩
  · simpa [hcalls, List.countP_append, List.countP_cons, hturn] using turns
  · simpa [hcalls, List.filterMap_append, List.filterMap_cons, hstored] using kept
  · rcases mem_calls_of_ne hcalls hmem with heq | hmem
    · exact hfilled heq.symm
    · exact filled hmem
  · rcases mem_calls_of_ne hcalls hmem with heq | hmem
    · exact hserved r heq.symm
    · exact served r hmem
  · simpa [freshResults, hcalls, List.filterMap_append, List.filterMap_cons, hsupplied] using made

theorem Sound.takeTurn (h : Sound sources w) (hcalls : w.calls = before ++ .waiting :: after)
    (hmay : Taking.waiting.mayStep w.calls = true) (hempty : w.state.first = none) :
    Sound sources ⟨w.state, before ++ .building :: after, w.builds ++ []⟩ := by
  obtain ⟨-, kept, filled, served, made, numbered⟩ := h
  have hturn : w.calls.countP Taking.hasTurn = 0 := by
    refine List.countP_eq_zero.2 fun call hcall hhas => ?_
    simp only [Taking.mayStep, Bool.not_eq_true', List.any_eq_false] at hmay
    exact hmay call hcall hhas
  rw [List.append_nil]
  refine ⟨?_, ?_, fun hmem => ?_, fun r hmem => ?_, ?_, numbered⟩
  · rw [hcalls, List.countP_append, List.countP_cons_of_neg (by simp [Taking.hasTurn])] at hturn
    show (before ++ .building :: after).countP Taking.hasTurn + w.state.first.toList.length ≤ 1
    rw [List.countP_append, List.countP_cons_of_pos rfl, hempty, Option.toList_none,
      List.length_nil]
    omega
  · simpa [hcalls, List.filterMap_append, List.filterMap_cons, Taking.stored?] using kept
  · rcases mem_calls_of_ne hcalls hmem with heq | hmem
    · cases heq
    · exact filled hmem
  · rcases mem_calls_of_ne hcalls hmem with heq | hmem
    · cases heq
    · exact served r hmem
  · simpa [freshResults, hcalls, List.filterMap_append, List.filterMap_cons,
      Taking.supplied?] using made

/-- Whoever has the turn finds the cell empty. -/
theorem Sound.first_eq_none (h : Sound sources w) (hcalls : w.calls = before ++ call :: after)
    (hturn : call.hasTurn = true) : w.state.first = none := by
  have hturns := h.turns
  rw [hcalls, List.countP_append, List.countP_cons_of_pos hturn] at hturns
  rcases hfirst : w.state.first with _ | built
  · rfl
  · simp only [hfirst, Option.toList_some, List.length_singleton] at hturns
    omega

theorem Sound.build (h : Sound sources w) (hcalls : w.calls = before ++ .building :: after) :
    Sound sources ⟨(sources.shared.takeFresh w.state).2,
      before ++ .storing (sources.shared.takeFresh w.state).1 :: after,
      w.builds ++ [.forAll (sources.shared.takeFresh w.state).1]⟩ := by
  have hempty := h.first_eq_none hcalls rfl
  have hfirst := sources.shared.first_takeFresh w.state
  obtain ⟨turns, kept, filled, served, made, numbered⟩ := h
  refine ⟨?_, ?_, fun hmem => ?_, fun r hmem => ?_, ?_, numbered.take sources.shared rfl⟩
  · simpa [hfirst, hcalls, List.countP_append, List.countP_cons, Taking.hasTurn] using turns
  · simp only [hfirst, hcalls, hempty, List.filterMap_append, List.filterMap_cons,
      List.filterMap_nil, Taking.stored?, Build.forAll?, Option.toList_none,
      List.nil_append] at kept ⊢
    exact (kept.append_right _).trans ((List.perm_append_singleton _ _).trans List.perm_middle.symm)
  · rcases mem_calls_of_ne hcalls hmem with heq | hmem
    · cases heq
    · rw [hfirst]
      exact filled hmem
  · rcases mem_calls_of_ne hcalls hmem with heq | hmem
    · cases heq
    · rw [hfirst]
      exact served r hmem
  · simpa [freshResults, hcalls, List.filterMap_append, List.filterMap_cons, Taking.supplied?,
      Build.forOne?] using made

theorem Sound.store (h : Sound sources w) {built : Except TransportError Pooled}
    (hcalls : w.calls = before ++ .storing built :: after) :
    Sound sources ⟨{ w.state with first := some built }, before ++ .reading :: after,
      w.builds ++ []⟩ := by
  have hempty := h.first_eq_none hcalls rfl
  obtain ⟨turns, kept, filled, served, made, numbered⟩ := h
  rw [List.append_nil]
  refine ⟨?_, ?_, fun _ => rfl, fun r hmem => ?_, ?_, numbered⟩
  · rw [hcalls, List.countP_append, List.countP_cons_of_pos rfl] at turns
    show (before ++ .reading :: after).countP Taking.hasTurn + [built].length ≤ 1
    rw [List.countP_append, List.countP_cons_of_neg (by simp [Taking.hasTurn]),
      List.length_singleton]
    omega
  · simp only [hcalls, hempty, List.filterMap_append, List.filterMap_cons, Taking.stored?,
      Option.toList_none, Option.toList_some, List.nil_append, List.singleton_append] at kept ⊢
    exact kept.trans List.perm_middle
  · rcases mem_calls_of_ne hcalls hmem with heq | hmem
    · cases heq
    · obtain ⟨_, hfirst, -⟩ := served r hmem
      cases hempty.symm.trans hfirst
  · simpa [freshResults, hcalls, List.filterMap_append, List.filterMap_cons,
      Taking.supplied?] using made

theorem Sound.supply (h : Sound sources w) (hcalls : w.calls = before ++ .requesting :: after) :
    Sound sources ⟨(sources.fresh.takeFresh w.state).2,
      before ++ .supplied (sources.fresh.takeFresh w.state).1 :: after,
      w.builds ++ [.forOne (sources.fresh.takeFresh w.state).1]⟩ := by
  have hfirst := sources.fresh.first_takeFresh w.state
  obtain ⟨turns, kept, filled, served, made, numbered⟩ := h
  refine ⟨?_, ?_, fun hmem => ?_, fun r hmem => ?_, ?_, numbered.take sources.fresh rfl⟩
  · simpa [hfirst, hcalls, List.countP_append, List.countP_cons, Taking.hasTurn] using turns
  · simpa [hfirst, hcalls, List.filterMap_append, List.filterMap_cons, Taking.stored?,
      Build.forAll?] using kept
  · rcases mem_calls_of_ne hcalls hmem with heq | hmem
    · cases heq
    · rw [hfirst]
      exact filled hmem
  · rcases mem_calls_of_ne hcalls hmem with heq | hmem
    · cases heq
    · rw [hfirst]
      exact served r hmem
  · simp only [freshResults, hcalls, List.filterMap_append, List.filterMap_cons,
      List.filterMap_nil, Taking.supplied?, Build.forOne?] at made ⊢
    exact (made.append_right _).trans ((List.perm_append_singleton _ _).trans List.perm_middle.symm)

theorem sound_step (h : Sound sources w) (i : Nat) : Sound sources (step sources w i) := by
  rcases step_cases sources w i with hstep | ⟨before, call, after, hcalls, hmay, hstep⟩
  · rwa [hstep]
  rw [hstep]
  cases call with
  | asking =>
    rcases hfirst : w.state.first with _ | built <;> simp only [advance, hfirst]
    · exact h.replace hcalls rfl rfl rfl (by simp) (by simp)
    · refine h.replace hcalls rfl rfl rfl (by simp) fun r hr => ⟨built, hfirst, ?_⟩
      exact (Taking.served.inj hr).symm
  | waiting =>
    rcases hfirst : w.state.first with _ | built <;> simp only [advance, hfirst]
    · exact h.takeTurn hcalls hmay hfirst
    · exact h.replace hcalls rfl rfl rfl (fun _ => by rw [hfirst]; rfl) (by simp)
  | building => exact h.build hcalls
  | storing built => exact h.store hcalls
  | reading =>
    have hfilled : w.state.first.isSome := h.filled (by simp [hcalls])
    obtain ⟨built, hfirst⟩ := Option.isSome_iff_exists.1 hfilled
    simp only [advance, hfirst]
    refine h.replace hcalls rfl rfl rfl (by simp) fun r hr => ⟨built, hfirst, ?_⟩
    exact (Taking.served.inj hr).symm
  | requesting => exact h.supply hcalls
  | served r =>
    refine h.replace hcalls rfl rfl rfl (fun hr => by cases hr) fun r' hr => h.served r' ?_
    rw [hcalls, ← hr]
    exact List.mem_append_right _ List.mem_cons_self
  | supplied r =>
    exact h.replace hcalls rfl rfl rfl (fun hr => by cases hr) fun r' hr => by cases hr

theorem sound_takers (sources : Sources) (sharing making : Nat) (schedule : List Nat) :
    Sound sources (sources.takers sharing making schedule) := by
  induction schedule using List.reverseRecOn with
  | nil => exact sound_gathered sources sharing making
  | append_singleton schedule i ih =>
    rw [Sources.takers, run, List.foldl_append]
    exact sound_step ih i

/-- What is in the cell stays there. -/
theorem isInitialized_step (h : w.state.isInitialized = true) (i : Nat) :
    (step sources w i).state.isInitialized = true := by
  rcases step_cases sources w i with hstep | ⟨before, call, after, -, -, hstep⟩
  · rwa [hstep]
  rw [hstep]
  show (advance sources w.state call).1.first.isSome = true
  obtain ⟨built, hfirst⟩ := Option.isSome_iff_exists.1 h
  cases call with
  | building =>
    show (sources.shared.takeFresh w.state).2.first.isSome = true
    rw [Source.first_takeFresh, hfirst]
    rfl
  | requesting =>
    show (sources.fresh.takeFresh w.state).2.first.isSome = true
    rw [Source.first_takeFresh, hfirst]
    rfl
  | storing built => rfl
  | asking | reading =>
    simp only [advance, hfirst]
    rfl
  | waiting | served | supplied => exact h

theorem isInitialized_run (schedule : List Nat) : ∀ {w : Takers},
    w.state.isInitialized = true → (run sources w schedule).state.isInitialized = true := by
  induction schedule with
  | nil => exact id
  | cons i schedule ih => exact fun h => ih (isInitialized_step h i)

section Progress

/-- The steps that all calls together have to take. -/
def remaining (w : Takers) : Nat :=
  (w.calls.map Taking.remaining).sum

theorem remaining_advance (call : Taking) (hover : call.isOver = false)
    (hfilled : call = .reading → w.state.first.isSome) :
    (advance sources w.state call).2.1.remaining < call.remaining := by
  cases call with
  | asking =>
    rcases hfirst : w.state.first with _ | built <;> simp [advance, hfirst, Taking.remaining]
  | waiting =>
    rcases hfirst : w.state.first with _ | built <;> simp [advance, hfirst, Taking.remaining]
  | reading =>
    obtain ⟨built, hfirst⟩ := Option.isSome_iff_exists.1 (hfilled rfl)
    simp [advance, hfirst, Taking.remaining]
  | building | storing | requesting => simp [advance, Taking.remaining]
  | served | supplied => cases hover

/-- Somebody can go on: whoever has the turn, or else anybody. -/
theorem exists_mayStep (h : ∃ call ∈ w.calls, call.isOver = false) :
    ∃ call ∈ w.calls, call.isOver = false ∧ call.mayStep w.calls = true := by
  by_cases hturn : ∃ call ∈ w.calls, call.hasTurn = true
  · obtain ⟨call, hcall, hhas⟩ := hturn
    refine ⟨call, hcall, ?_, ?_⟩ <;> cases call <;> first | rfl | cases hhas
  · obtain ⟨call, hcall, hover⟩ := h
    refine ⟨call, hcall, hover, ?_⟩
    cases call with
    | waiting =>
      simp only [Taking.mayStep, Bool.not_eq_true', List.any_eq_false]
      exact fun other hother hhas => hturn ⟨other, hother, hhas⟩
    | _ => rfl

/-- Nobody has to wait forever: however far all calls have come, all can come to their end. -/
theorem exists_run_isOver (h : Sound sources w) :
    ∃ later, ∀ call ∈ (run sources w later).calls, call.isOver = true := by
  induction hn : remaining w using Nat.strongRecOn generalizing w with
  | ind n ih =>
    by_cases hover : ∃ call ∈ w.calls, call.isOver = false
    · obtain ⟨call, hcall, hover, hmay⟩ := exists_mayStep hover
      obtain ⟨before, after, hcalls⟩ := List.append_of_mem hcall
      have hless : (advance sources w.state call).2.1.remaining < call.remaining :=
        remaining_advance call hover fun hread => h.filled (hread ▸ hcall)
      have hremaining : remaining (step sources w before.length) < n := by
        rw [step_of_mayStep sources hcalls hmay, ← hn]
        simp only [remaining, hcalls, List.map_append, List.map_cons, List.sum_append,
          List.sum_cons]
        omega
      obtain ⟨later, hlater⟩ := ih _ hremaining (sound_step h before.length) rfl
      exact ⟨before.length :: later, hlater⟩
    · refine ⟨[], fun call hcall => ?_⟩
      by_contra hnot
      exact hover ⟨call, hcall, by simpa using hnot⟩

end Progress

section Alone

/-- A call that nobody interrupts does what taking a shared transport does. -/
theorem run_asking_alone (s : Source.State) :
    run sources ⟨s, [.asking], []⟩ [0, 0, 0, 0, 0]
      = ⟨(sources.shared.takeShared s).2, [.served (sources.shared.takeShared s).1],
        if s.first.isSome then [] else [.forAll (sources.shared.takeFresh s).1]⟩ := by
  obtain ⟨count, _ | built⟩ := s <;> rfl

theorem run_requesting_alone (s : Source.State) :
    run sources ⟨s, [.requesting], []⟩ [0]
      = ⟨(sources.fresh.takeFresh s).2, [.supplied (sources.fresh.takeFresh s).1],
        [.forOne (sources.fresh.takeFresh s).1]⟩ := rfl

end Alone

section Results

theorem Sound.length_forAll_le (h : Sound sources w) :
    (w.builds.filterMap Build.forAll?).length ≤ 1 := by
  have hstored : (w.calls.filterMap Taking.stored?).length ≤ w.calls.countP Taking.hasTurn := by
    rw [List.length_filterMap_eq_countP]
    refine List.countP_mono_left fun call _ hcall => ?_
    cases call <;> first | rfl | cases hcall
  have hturns := h.turns
  rw [h.kept.length_eq, List.length_append]
  omega

/-- What the callers of the shared source get is the outcome of the one build. -/
theorem Sound.forAll_of_served (h : Sound sources w) {r : Except TransportError Pooled}
    (hr : r ∈ w.sharedResults) :
    ∃ built, w.builds.filterMap Build.forAll? = [built] ∧ r = Source.shared built := by
  obtain ⟨call, hcall, hserved⟩ := List.mem_filterMap.1 hr
  obtain rfl : call = .served r := by
    cases call <;> simp_all [Taking.served?]
  obtain ⟨built, hfirst, rfl⟩ := h.served r hcall
  refine ⟨built, ?_, rfl⟩
  have hkept := h.kept
  have hlength := hkept.length_eq
  rw [hfirst, Option.toList_some, List.singleton_append] at hkept hlength
  have hnil : w.calls.filterMap Taking.stored? = [] := by
    have hle := h.length_forAll_le
    refine List.length_eq_zero_iff.1 ?_
    rw [List.length_cons] at hlength
    omega
  rwa [hnil, List.perm_singleton] at hkept

theorem Sound.mem_builds_of_fresh (h : Sound sources w) {r : Except TransportError Pooled}
    (hr : r ∈ w.freshResults) : .forOne r ∈ w.builds := by
  obtain ⟨b, hb, hone⟩ := List.mem_filterMap.1 (h.made.mem_iff.2 hr)
  cases b with
  | forAll built => cases hone
  | forOne built =>
    cases hone
    exact hb

theorem forAll_mem_builds {built : Except TransportError Pooled}
    (h : w.builds.filterMap Build.forAll? = [built]) : .forAll built ∈ w.builds := by
  obtain ⟨b, hb, hall⟩ := List.mem_filterMap.1 (h ▸ List.mem_singleton_self built)
  cases b with
  | forAll built' =>
    cases hall
    exact hb
  | forOne built' => cases hall

theorem sublist_numbers : ∀ builds : List Build,
    ((builds.filterMap Build.forOne?).filterMap fun r => r.toOption.map Pooled.number).Sublist
      (builds.filterMap Build.number?)
  | [] => .slnil
  | .forAll built :: builds => by
    have ih := sublist_numbers builds
    rw [List.filterMap_cons_none rfl]
    rcases hnumber : (Build.forAll built).number? with _ | n
    · rwa [List.filterMap_cons_none hnumber]
    · rw [List.filterMap_cons_some hnumber]
      exact ih.cons n
  | .forOne built :: builds => by
    have ih := sublist_numbers builds
    simp only [List.filterMap_cons, Build.forOne?, Build.number?, Build.outcome]
    rcases built.toOption.map Pooled.number with _ | n
    · exact ih
    · exact ih.cons_cons n

/-- No two fresh transports have one number. -/
theorem Sound.nodup_fresh (h : Sound sources w) :
    (w.freshResults.filterMap fun r => r.toOption.map Pooled.number).Nodup := by
  have hnodup : (w.builds.filterMap Build.number?).Nodup :=
    h.numbered.ascending.imp Nat.ne_of_lt
  exact (h.made.filterMap _).nodup_iff.1 (hnodup.sublist (sublist_numbers w.builds))

end Results

/-- However the calls of any number of callers run into each other, one transport at most is built
for all callers of the shared source, what comes of that one build is what each of them gets, and
once the build is over it stays so. Each caller of the fresh source gets a transport of its own.
Nobody has to wait forever. Whether there are transports is a matter of the configuration alone: if
there are none, those who share are told why in other words, but for the same reason. Calls that do
not run into each other do what `takeShared` and `takeFresh` do. -/
theorem shared_transport_built_once (sources : Sources) :
    (∀ sharing making schedule,
      ((sources.takers sharing making schedule).builds.filterMap Build.forAll?).length ≤ 1
      ∧ (∀ later, (sources.takers sharing making schedule).state.isInitialized →
        (sources.takers sharing making (schedule ++ later)).state.isInitialized)
      ∧ (∀ r ∈ (sources.takers sharing making schedule).sharedResults, ∃ built,
        (sources.takers sharing making schedule).builds.filterMap Build.forAll? = [built]
          ∧ r = Source.shared built)
      ∧ ((sources.takers sharing making schedule).freshResults.filterMap
          fun r => r.toOption.map Pooled.number).Nodup
      ∧ ∃ later, ∀ call ∈ (sources.takers sharing making (schedule ++ later)).calls, call.isOver)
    ∧ ((∃ e, ∀ sharing making schedule,
        (∀ r ∈ (sources.takers sharing making schedule).sharedResults, r = .error (.shared e))
        ∧ ∀ r ∈ (sources.takers sharing making schedule).freshResults, r = .error e)
      ∨ ∀ sharing making schedule,
        (∃ t, ∀ r ∈ (sources.takers sharing making schedule).sharedResults, r = .ok t)
        ∧ ∀ r ∈ (sources.takers sharing making schedule).freshResults, ∃ t, r = .ok t)
    ∧ ∀ s : Source.State,
      ((run sources ⟨s, [.asking], []⟩ [0, 0, 0, 0, 0]).calls
          = [.served (sources.shared.takeShared s).1]
        ∧ (run sources ⟨s, [.asking], []⟩ [0, 0, 0, 0, 0]).state
          = (sources.shared.takeShared s).2)
      ∧ (run sources ⟨s, [.requesting], []⟩ [0]).calls
          = [.supplied (sources.fresh.takeFresh s).1]
        ∧ (run sources ⟨s, [.requesting], []⟩ [0]).state = (sources.fresh.takeFresh s).2 := by
  refine ⟨fun sharing making schedule => ?_, ?_, fun s => ?_⟩
  · have hsound := sound_takers sources sharing making schedule
    have hlater : ∀ later, sources.takers sharing making (schedule ++ later)
        = run sources (sources.takers sharing making schedule) later :=
      fun later => List.foldl_append
    refine ⟨hsound.length_forAll_le, fun later h => ?_, fun r hr => hsound.forAll_of_served hr,
      hsound.nodup_fresh, ?_⟩
    · rw [hlater]
      exact isInitialized_run later h
    · obtain ⟨later, hover⟩ := exists_run_isOver hsound
      exact ⟨later, by rwa [hlater]⟩
  · rcases hrefusal : sources.config.refusal? with _ | e
    · refine .inr fun sharing making schedule => ?_
      have hsound := sound_takers sources sharing making schedule
      refine ⟨?_, fun r hr => hsound.numbered.accepted hrefusal _ (hsound.mem_builds_of_fresh hr)⟩
      by_cases hserved : ∃ r, r ∈ (sources.takers sharing making schedule).sharedResults
      · obtain ⟨r, hr⟩ := hserved
        obtain ⟨built, hbuilt, -⟩ := hsound.forAll_of_served hr
        obtain ⟨t, rfl⟩ := hsound.numbered.accepted hrefusal _ (forAll_mem_builds hbuilt)
        refine ⟨t, fun r' hr' => ?_⟩
        obtain ⟨built', hbuilt', rfl⟩ := hsound.forAll_of_served hr'
        obtain rfl : .ok t = built' := by simpa [hbuilt] using hbuilt'
        rfl
      · exact ⟨⟨0, sources.config, .silent⟩, fun r hr => absurd ⟨r, hr⟩ hserved⟩
    · refine .inl ⟨e, fun sharing making schedule => ?_⟩
      have hsound := sound_takers sources sharing making schedule
      refine ⟨fun r hr => ?_, fun r hr => hsound.numbered.refused e hrefusal _
        (hsound.mem_builds_of_fresh hr)⟩
      obtain ⟨built, hbuilt, rfl⟩ := hsound.forAll_of_served hr
      obtain rfl : built = .error e :=
        hsound.numbered.refused e hrefusal _ (forAll_mem_builds hbuilt)
      rfl
  · rw [run_asking_alone, run_requesting_alone]
    exact ⟨⟨rfl, rfl⟩, rfl, rfl⟩

end Takers

end BearerAuth.Transport
