import BearerAuth.Proofs.Client.Schedule
import Mathlib.Data.List.Induction

/-!
# From which settings the hook is made

Among ordinary options only those that install a hook depend on others, and all of these have one
rank. So those that run again run in the order in which they were given (`filter_dependent_ranked`),
and the last of them is what runs last of all (`getLast?_applications`). Whatever the options of
higher rank have done to the settings, its hook is made from what they have left, and nothing comes
after it (`hook_made_from_final_settings`).
-/

namespace BearerAuth.ClientOption

variable {σ : Type}

/-- A common option, or one of the caller's own that does not run again. -/
inductive Ordinary : ClientOption σ → Prop
  | development : Ordinary development
  | logger (l : Logger) : Ordinary (logger l)
  | transport (t : Transport σ) : Ordinary (transport t)
  | timeout (d : Time.Duration) : Ordinary (timeout d)
  | trace (make : Settings σ → Hook) : Ordinary (trace make)
  | loggingTrace (level : Level) : Ordinary (loggingTrace level)
  | own (rank : Nat) (apply : Settings σ → Settings σ) : Ordinary ⟨rank, false, apply⟩

theorem Ordinary.exists_eq_trace {o : ClientOption σ} (h : Ordinary o) (hdep : o.dependent = true) :
    ∃ make, o = ClientOption.trace make := by
  cases h with
  | trace make => exact ⟨make, rfl⟩
  | loggingTrace level => exact ⟨_, rfl⟩
  | development | logger | transport | timeout | own => cases hdep

theorem make_eq_of_trace_eq {make make' : Settings σ → Hook} (h : trace make = trace make')
    (s : Settings σ) : make s = make' s := by
  have happly : (trace make).apply s = (trace make').apply s := by rw [h]
  exact Option.some.inj (congrArg Settings.trace happly)

section Again

variable {options : List (ClientOption σ)}

/-- The options that run again do so in the order in which they were given. -/
theorem filter_dependent_ranked (h : ∀ o ∈ options, Ordinary o) :
    (ranked options).filter (·.1.dependent) = options.zipIdx.filter (·.1.dependent) := by
  have hrank : ∀ entries : List (ClientOption σ × Nat), (∀ e ∈ entries, e.1 ∈ options) →
      entries.filter (·.1.dependent)
        = (entries.filter (·.1.rank = ranks.trace)).filter (·.1.dependent) := by
    intro entries hentries
    rw [List.filter_filter]
    refine List.filter_congr fun e he => ?_
    cases hdep : e.1.dependent with
    | false => rfl
    | true =>
      obtain ⟨make, hmake⟩ := (h e.1 (hentries e he)).exists_eq_trace hdep
      rw [hmake]
      rfl
  have hplaced : ∀ e ∈ options.zipIdx, e.1 ∈ options := fun e he =>
    List.mem_of_getElem? (List.mem_zipIdx_iff_getElem?.1 he)
  rw [hrank _ hplaced, hrank _ fun e he => hplaced e ((ranked_perm options).mem_iff.1 he),
    filter_ranked]

theorem exists_last_trace (h : ∃ make, trace make ∈ options) :
    ∃ before make after, options = before ++ trace make :: after
      ∧ ∀ make', trace make' ∉ after := by
  induction options using List.reverseRecOn with
  | nil => simp at h
  | append_singleton options o ih =>
    by_cases htrace : ∃ make, o = trace make
    · obtain ⟨make, rfl⟩ := htrace
      exact ⟨options, make, [], rfl, by simp⟩
    · have hne : ∀ make, trace make ≠ o := fun make hmake => htrace ⟨make, hmake.symm⟩
      obtain ⟨before, make, after, rfl, hafter⟩ := ih (by simpa [hne] using h)
      refine ⟨before, make, after ++ [o], by simp, fun make' hmem => ?_⟩
      rcases List.mem_append.1 hmem with hmem | hmem
      · exact hafter make' hmem
      · exact hne make' (List.mem_singleton.1 hmem)

end Again

theorem applications_append (later : List (ClientOption σ × Nat)) :
    ∀ (s : Settings σ) (entries : List (ClientOption σ × Nat)),
      applications s (entries ++ later) = applications s entries
        ++ applications (entries.foldl (fun s (o, _) => o.apply s) s) later
  | _, [] => rfl
  | s, (o, place) :: entries => by
    rw [List.cons_append, applications, applications, List.cons_append,
      applications_append later (o.apply s) entries]
    rfl

/-- The last option that installs a hook is the one that runs last, and what it leaves are the final
settings. -/
theorem getLast?_applications {before after : List (ClientOption σ)} {make : Settings σ → Hook}
    (h : ∀ o ∈ before ++ trace make :: after, Ordinary o) (hafter : ∀ make', trace make' ∉ after)
    (s : Settings σ) :
    ∃ found, (applications s (schedule (before ++ trace make :: after))).getLast?
        = some ⟨trace make, before.length, found⟩
      ∧ applyAll s (before ++ trace make :: after) = (trace make).apply found := by
  have hnone : (after.zipIdx (before.length + 1)).filter (·.1.dependent) = [] := by
    refine List.filter_eq_nil_iff.2 fun e he hdep => ?_
    have hmem : e.1 ∈ after := List.fst_mem_of_mem_zipIdx he
    obtain ⟨make', hmake⟩ := (h e.1 (by simp [hmem])).exists_eq_trace hdep
    exact hafter make' (hmake ▸ hmem)
  have hagain : (ranked (before ++ trace make :: after)).filter (·.1.dependent)
      = before.zipIdx.filter (·.1.dependent) ++ [(trace make, before.length)] := by
    rw [filter_dependent_ranked h, List.zipIdx_append, List.zipIdx_cons, List.filter_append,
      Nat.zero_add, List.filter_cons, hnone]
    rfl
  rw [applyAll, schedule, hagain, ← List.append_assoc, applications_append]
  refine ⟨_, List.getLast?_concat, ?_⟩
  rw [List.foldl_append]
  rfl

/-- Of ordinary options the last that installs a hook decides it, whatever the ranks and the order
of the others and whatever they do to the settings: what it makes from the settings that it finds
when it runs last is the final hook, and in all but the hook these are the final settings. So a hook
that writes milestones to a logger writes them to the final one. -/
theorem hook_made_from_final_settings (s : Settings σ) {options : List (ClientOption σ)}
    (hordinary : ∀ o ∈ options, Ordinary o) :
    ((∃ make, trace make ∈ options) → ∃ before make after,
      options = before ++ trace make :: after ∧ ∀ make', trace make' ∉ after)
    ∧ ∀ before make after, options = before ++ trace make :: after →
      (∀ make', trace make' ∉ after) → ∃ found,
        (applications s (schedule options)).getLast? = some ⟨trace make, before.length, found⟩
        ∧ (applyAll s options).trace = some (make found)
        ∧ found.development = (applyAll s options).development
        ∧ found.logger = (applyAll s options).logger
        ∧ found.transport = (applyAll s options).transport
        ∧ found.timeout = (applyAll s options).timeout
        ∧ ∀ level, trace make = loggingTrace level →
          (applyAll s options).trace = some (.logging (applyAll s options).logger level) := by
  refine ⟨exists_last_trace, ?_⟩
  rintro before make after rfl hafter
  obtain ⟨found, hlast, hfinal⟩ := getLast?_applications hordinary hafter s
  refine ⟨found, hlast, ?_⟩
  rw [hfinal]
  refine ⟨rfl, rfl, rfl, rfl, rfl, fun level hlevel => ?_⟩
  show some (make found) = _
  rw [make_eq_of_trace_eq hlevel found]
  rfl

/-- An option of rank 600 that takes the hook away and sends records elsewhere. -/
def elsewhere : ClientOption Unit :=
  ⟨600, false, fun s => { s with logger := .recorder "b", trace := none }⟩

theorem hook_made_after_elsewhere :
    (∀ o ∈ [loggingTrace .debug, elsewhere, logger (.recorder "a")], Ordinary o)
      ∧ (∀ make', trace make' ∉ [elsewhere, logger (.recorder "a")])
      ∧ (applyAll .initial [loggingTrace .debug, elsewhere, logger (.recorder "a")]).trace
        = some (.logging (.recorder "b") .debug) := by
  have hordinary : ∀ o ∈ [loggingTrace .debug, elsewhere, logger (.recorder "a")], Ordinary o := by
    simp only [List.forall_mem_cons, List.not_mem_nil, false_implies, implies_true, and_true]
    exact ⟨.loggingTrace .debug, .own 600 _, .logger _⟩
  have hafter : ∀ make' : Settings Unit → Hook,
      trace make' ∉ [elsewhere, logger (.recorder "a")] := by
    intro make' hmem
    simp only [List.mem_cons, List.not_mem_nil, or_false] at hmem
    rcases hmem with hmem | hmem <;> cases congrArg ClientOption.dependent hmem
  obtain ⟨found, -, -, -, -, -, -, hlogging⟩ :=
    (hook_made_from_final_settings .initial hordinary).2 [] _ _ rfl hafter
  have hlogger : (applyAll .initial
      [loggingTrace .debug, elsewhere, logger (.recorder "a")]).logger = .recorder "b" := by
    simp [applyAll, schedule, ranked, List.mergeSort, List.MergeSort.Internal.splitInTwo,
      elsewhere, loggingTrace, trace, logger, ranks, Settings.initial]
  exact ⟨hordinary, hafter, by rw [hlogging .debug rfl, hlogger]⟩

end BearerAuth.ClientOption
