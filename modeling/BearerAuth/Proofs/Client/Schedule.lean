import BearerAuth.Client.Options
import Mathlib.Data.List.Nodup

/-!
# In which order options run

Options are sorted by rank, and those of one rank stay in the order in which they were given
(`filter_ranked`). A list in the order of ranks is determined by its options of each rank
(`eq_of_filter_rank_eq`), so two lists that have the same options of each rank, in the same order,
run alike (`map_fst_schedule_eq`). All options have run once before any runs again
(`lt_of_first_of_second`).
-/

namespace BearerAuth.ClientOption

variable {σ : Type}

/-- An option that has run, with the settings that it found. -/
def Application.entry (a : Application σ) : ClientOption σ × Settings σ :=
  (a.option, a.found)

/-- An option that has run, with its place in the list. -/
def Application.scheduled (a : Application σ) : ClientOption σ × Nat :=
  (a.option, a.place)

/-- The settings that options find which run one after another. -/
def visits (s : Settings σ) : List (ClientOption σ) → List (ClientOption σ × Settings σ)
  | [] => []
  | o :: later => (o, s) :: visits (o.apply s) later

/-- The places of the options that run, in the order of their runs. -/
def places (options : List (ClientOption σ)) : List Nat :=
  (schedule options).map Prod.snd

section Applications

theorem map_entry_applications : ∀ (s : Settings σ) (entries : List (ClientOption σ × Nat)),
    (applications s entries).map Application.entry = visits s (entries.map Prod.fst)
  | _, [] => rfl
  | s, (o, place) :: later => by
    simp only [applications, List.map_cons, visits, map_entry_applications (o.apply s) later]
    rfl

theorem map_scheduled_applications : ∀ (s : Settings σ) (entries : List (ClientOption σ × Nat)),
    (applications s entries).map Application.scheduled = entries
  | _, [] => rfl
  | s, (o, place) :: later => by
    simp only [applications, List.map_cons, map_scheduled_applications (o.apply s) later]
    rfl

/-- Each option finds what those before it have made of the settings. -/
theorem found_applications {a : Application σ} {after : List (Application σ)} :
    ∀ {s : Settings σ} {entries : List (ClientOption σ × Nat)} {before : List (Application σ)},
      applications s entries = before ++ a :: after →
        a.found = before.foldl (fun s b => b.option.apply s) s
  | _, [], before, h => by simp [applications] at h
  | s, (o, place) :: later, [], h => by
    simp only [applications, List.nil_append, List.cons.injEq] at h
    rw [← h.1, List.foldl_nil]
  | s, (o, place) :: later, b :: before, h => by
    simp only [applications, List.cons_append, List.cons.injEq] at h
    rw [List.foldl_cons, ← h.1]
    exact found_applications h.2

theorem foldl_applications (s : Settings σ) (entries : List (ClientOption σ × Nat)) :
    (applications s entries).foldl (fun s a => a.option.apply s) s
      = entries.foldl (fun s (o, _) => o.apply s) s := by
  conv_rhs => rw [← map_scheduled_applications s entries, List.foldl_map]
  rfl

end Applications

section Ranked

variable (options : List (ClientOption σ))

theorem ranked_perm : (ranked options).Perm options.zipIdx :=
  List.mergeSort_perm _ _

theorem ranked_pairwise : (ranked options).Pairwise fun a b => a.1.rank ≤ b.1.rank := by
  have h : (ranked options).Pairwise fun a b => decide (a.1.rank ≤ b.1.rank) = true :=
    List.pairwise_mergeSort (fun a b c => by simpa using Nat.le_trans)
      (fun a b => by simpa using Nat.le_total _ _) options.zipIdx
  simpa only [decide_eq_true_eq] using h

/-- Options of one rank keep their order. -/
theorem filter_ranked (rank : Nat) :
    (ranked options).filter (·.1.rank = rank) = options.zipIdx.filter (·.1.rank = rank) := by
  have hsorted : (options.zipIdx.filter (·.1.rank = rank)).Pairwise
      fun a b => decide (a.1.rank ≤ b.1.rank) = true := by
    refine List.pairwise_of_forall_mem_list fun a ha b hb => ?_
    simp only [List.mem_filter, decide_eq_true_eq] at ha hb ⊢
    omega
  have hsub : (options.zipIdx.filter (·.1.rank = rank)).Sublist (ranked options) :=
    List.sublist_mergeSort (fun a b c => by simpa using Nat.le_trans)
      (fun a b => by simpa using Nat.le_total _ _) hsorted List.filter_sublist
  have hfilter := hsub.filter (·.1.rank = rank)
  rw [List.filter_filter] at hfilter
  simp only [Bool.and_self] at hfilter
  exact (hfilter.eq_of_length ((ranked_perm options).filter _).length_eq.symm).symm

/-- Options run in the order of ranks, and within a rank in the order of their places. -/
theorem ranked_pairwise_place : (ranked options).Pairwise fun a b =>
    a.1.rank < b.1.rank ∨ a.1.rank = b.1.rank ∧ a.2 < b.2 := by
  rw [List.pairwise_iff_forall_sublist]
  intro a b hab
  rcases Nat.lt_or_eq_of_le
    (List.pairwise_iff_forall_sublist.1 (ranked_pairwise options) hab) with hlt | heq
  · exact .inl hlt
  · refine .inr ⟨heq, ?_⟩
    have hsub := hab.filter (·.1.rank = b.1.rank)
    rw [filter_ranked] at hsub
    have hpair : [a, b].filter (·.1.rank = b.1.rank) = [a, b] := by simp [heq]
    rw [hpair] at hsub
    have hplaces := (hsub.trans List.filter_sublist).map Prod.snd
    rw [List.zipIdx_map_snd] at hplaces
    exact List.pairwise_iff_forall_sublist.1 List.pairwise_lt_range' hplaces

theorem rank_le_of_filter_rank_eq {x y : ClientOption σ} {xs ys : List (ClientOption σ)}
    (hys : (y :: ys).Pairwise (·.rank ≤ ·.rank))
    (h : (x :: xs).filter (·.rank = x.rank) = (y :: ys).filter (·.rank = x.rank)) :
    y.rank ≤ x.rank := by
  have hmem : x ∈ (y :: ys).filter (·.rank = x.rank) := by
    rw [← h]
    simp
  rcases List.mem_cons.1 (List.mem_filter.1 hmem).1 with rfl | hx
  · exact Nat.le_refl _
  · exact (List.pairwise_cons.1 hys).1 x hx

/-- A list in the order of ranks is determined by its options of each rank. -/
theorem eq_of_filter_rank_eq : ∀ {xs ys : List (ClientOption σ)},
    xs.Pairwise (·.rank ≤ ·.rank) → ys.Pairwise (·.rank ≤ ·.rank) →
      (∀ rank, xs.filter (·.rank = rank) = ys.filter (·.rank = rank)) → xs = ys
  | [], [], _, _, _ => rfl
  | [], y :: ys, _, _, h => by simpa using h y.rank
  | x :: xs, [], _, _, h => by simpa using h x.rank
  | x :: xs, y :: ys, hxs, hys, h => by
    have hrank : x.rank = y.rank := Nat.le_antisymm
      (rank_le_of_filter_rank_eq hxs (h y.rank).symm) (rank_le_of_filter_rank_eq hys (h x.rank))
    -- the first options of both are those of the lowest rank
    have hhead := h x.rank
    simp only [List.filter_cons, hrank, decide_true, if_true, List.cons.injEq] at hhead
    obtain ⟨rfl, -⟩ := hhead
    refine congrArg _ (eq_of_filter_rank_eq (List.pairwise_cons.1 hxs).2
      (List.pairwise_cons.1 hys).2 fun rank => ?_)
    have htail := h rank
    simp only [List.filter_cons] at htail
    split_ifs at htail
    · exact (List.cons.inj htail).2
    · exact htail

theorem filter_map_fst_ranked (rank : Nat) :
    ((ranked options).map Prod.fst).filter (·.rank = rank) = options.filter (·.rank = rank) := by
  conv_rhs => rw [← List.zipIdx_map_fst 0 options, List.filter_map]
  rw [List.filter_map]
  exact congrArg _ (filter_ranked options rank)

theorem map_fst_schedule : (schedule options).map Prod.fst =
    (ranked options).map Prod.fst ++ ((ranked options).map Prod.fst).filter (·.dependent) := by
  rw [schedule, List.map_append, List.filter_map]
  rfl

variable {options} in
/-- Options that are the same in each rank run in the same order. -/
theorem map_fst_schedule_eq {others : List (ClientOption σ)}
    (h : ∀ rank, options.filter (·.rank = rank) = others.filter (·.rank = rank)) :
    (schedule options).map Prod.fst = (schedule others).map Prod.fst := by
  have hsorted : ∀ os : List (ClientOption σ),
      ((ranked os).map Prod.fst).Pairwise (·.rank ≤ ·.rank) :=
    fun os => List.pairwise_map.2 (ranked_pairwise os)
  have hranked : (ranked options).map Prod.fst = (ranked others).map Prod.fst := by
    refine eq_of_filter_rank_eq (hsorted options) (hsorted others) fun rank => ?_
    rw [filter_map_fst_ranked, filter_map_fst_ranked, h rank]
  rw [map_fst_schedule, map_fst_schedule, hranked]

theorem applyAll_eq (s : Settings σ) :
    applyAll s options = ((schedule options).map Prod.fst).foldl (fun s o => o.apply s) s := by
  rw [applyAll, List.foldl_map]

end Ranked

section Places

variable {options : List (ClientOption σ)}

theorem filter_zipIdx_place {o : ClientOption σ} : ∀ {os : List (ClientOption σ)} {n place : Nat},
    os[place]? = some o → (os.zipIdx n).filter (·.2 = n + place) = [(o, n + place)]
  | [], n, place, h => by simp at h
  | o' :: os, n, 0, h => by
    have hlater : (os.zipIdx (n + 1)).filter (·.2 = n) = [] := by
      refine List.filter_eq_nil_iff.2 fun e he => ?_
      have := List.le_snd_of_mem_zipIdx he
      simp only [decide_eq_true_eq]
      omega
    cases h
    rw [List.zipIdx_cons, List.filter_cons_of_pos (by simp), Nat.add_zero, hlater]
  | o' :: os, n, place + 1, h => by
    have ih := filter_zipIdx_place (n := n + 1) (List.getElem?_cons_succ ▸ h)
    rw [show n + 1 + place = n + (place + 1) by omega] at ih
    rw [List.zipIdx_cons, List.filter_cons_of_neg (by simp), ih]

/-- The runs of an option: one, and a second one if it reads what others write. -/
theorem filter_schedule_place {o : ClientOption σ} {place : Nat} (h : options[place]? = some o) :
    (schedule options).filter (·.2 = place) =
      (o, place) :: if o.dependent then [(o, place)] else [] := by
  have hfirst : (ranked options).filter (·.2 = place) = [(o, place)] := by
    have hperm := (ranked_perm options).filter (·.2 = place)
    have hplace := filter_zipIdx_place (n := 0) h
    rw [Nat.zero_add] at hplace
    rwa [hplace, List.perm_singleton] at hperm
  rw [schedule, List.filter_append, List.filter_filter, hfirst]
  simp only [Bool.and_comm]
  rw [← List.filter_filter, hfirst, List.filter_cons, List.filter_nil]
  rfl

theorem places_perm : ((ranked options).map Prod.snd).Perm (List.range options.length) := by
  have h := (ranked_perm options).map Prod.snd
  rwa [List.zipIdx_map_snd, ← List.range_eq_range'] at h

theorem places_nodup : ((ranked options).map Prod.snd).Nodup :=
  places_perm.nodup_iff.2 List.nodup_range

theorem places_eq : places options = (ranked options).map Prod.snd
    ++ ((ranked options).filter (·.1.dependent)).map Prod.snd := by
  rw [places, schedule, List.map_append]

theorem mem_first_of_mem_places {place : Nat} (h : place ∈ places options) :
    place ∈ (ranked options).map Prod.snd := by
  rw [places_eq, List.mem_append] at h
  rcases h with h | h
  · exact h
  · exact (List.filter_sublist.map Prod.snd).subset h

/-- What runs after all options have run once, has run before. -/
theorem mem_take_of_length_le {i place : Nat} (h : place ∈ places options)
    (hi : ((ranked options).map Prod.snd).length ≤ i) : place ∈ (places options).take i := by
  rw [places_eq, List.take_append, List.take_of_length_le hi]
  exact List.mem_append_left _ (mem_first_of_mem_places h)

/-- No option runs twice before all have run once. -/
theorem not_mem_take_of_lt {j place : Nat} (h : (places options)[j]? = some place)
    (hj : j < ((ranked options).map Prod.snd).length) : place ∉ (places options).take j := by
  rw [places_eq, List.getElem?_append_left hj] at h
  rw [places_eq, List.take_append_of_le_length (Nat.le_of_lt hj)]
  intro hmem
  obtain ⟨i, hi, hplace⟩ := List.mem_take_iff_getElem.1 hmem
  have hij : i < j := by omega
  refine List.nodup_iff_getElem?_ne_getElem?.1 places_nodup i j hij hj ?_
  rw [h, List.getElem?_eq_getElem (Nat.lt_trans hij hj), hplace]

/-- Every first run comes before every second run. -/
theorem lt_of_first_of_second {i j first second : Nat} (hi : (places options)[i]? = some first)
    (hj : (places options)[j]? = some second) (hfirst : first ∉ (places options).take i)
    (hsecond : second ∈ (places options).take j) : i < j := by
  have hlt : i < ((ranked options).map Prod.snd).length := by
    by_contra hge
    exact hfirst (mem_take_of_length_le (List.mem_of_getElem? hi) (Nat.not_lt.1 hge))
  have hle : ((ranked options).map Prod.snd).length ≤ j := by
    by_contra hlt'
    exact not_mem_take_of_lt hj (Nat.not_le.1 hlt') hsecond
  omega

end Places

/-- Options that are the same in each rank, in the same order, run in the same order, find the same
settings and leave the same settings. The runs are those of all options in the order of their ranks
and, within a rank, of the list, and then those of the options that read what others write, in the
same order; each finds what those before it have made of the settings. So these options run twice
and all others once, and no first run comes after a second one. -/
theorem applications_determined_by_ranks (s : Settings σ) (options : List (ClientOption σ)) :
    (∀ others : List (ClientOption σ),
      (∀ rank, options.filter (·.rank = rank) = others.filter (·.rank = rank)) →
      (applications s (schedule options)).map Application.entry
          = (applications s (schedule others)).map Application.entry
        ∧ applyAll s options = applyAll s others)
    ∧ (∃ first : List (ClientOption σ × Nat),
      (applications s (schedule options)).map Application.scheduled
          = first ++ first.filter (·.1.dependent)
        ∧ first.Perm options.zipIdx
        ∧ first.Pairwise fun a b => a.1.rank < b.1.rank ∨ a.1.rank = b.1.rank ∧ a.2 < b.2)
    ∧ (∀ before a after, applications s (schedule options) = before ++ a :: after →
      a.found = before.foldl (fun s b => b.option.apply s) s)
    ∧ applyAll s options
      = (applications s (schedule options)).foldl (fun s a => a.option.apply s) s
    ∧ (∀ (place : Nat) o, options[place]? = some o →
      (applications s (schedule options)).countP (·.place = place)
        = if o.dependent then 2 else 1)
    ∧ ∀ (i j : Nat) a b, (applications s (schedule options))[i]? = some a →
      (applications s (schedule options))[j]? = some b →
      (∀ c ∈ (applications s (schedule options)).take i, c.place ≠ a.place) →
      (∃ c ∈ (applications s (schedule options)).take j, c.place = b.place) → i < j := by
  have hscheduled := map_scheduled_applications s (schedule options)
  have hplaces : (applications s (schedule options)).map Application.place = places options := by
    conv_rhs => rw [places, ← hscheduled, List.map_map]
    rfl
  refine ⟨fun others h => ⟨?_, ?_⟩, ⟨ranked options, hscheduled, ranked_perm options,
    ranked_pairwise_place options⟩, fun before a after => found_applications,
    (foldl_applications s _).symm, fun place o ho => ?_, fun i j a b hi hj ha hb => ?_⟩
  · rw [map_entry_applications, map_entry_applications, map_fst_schedule_eq h]
  · rw [applyAll_eq, applyAll_eq, map_fst_schedule_eq h]
  · have hcount : (applications s (schedule options)).countP (·.place = place)
        = (schedule options).countP (·.2 = place) := by
      conv_rhs => rw [← hscheduled, List.countP_map]
      rfl
    rw [hcount, List.countP_eq_length_filter, filter_schedule_place ho]
    cases o.dependent <;> rfl
  · have hplace : ∀ {k : Nat} {c : Application σ},
        (applications s (schedule options))[k]? = some c → (places options)[k]? = some c.place := by
      intro k c hc
      rw [← hplaces, List.getElem?_map, hc, Option.map_some]
    refine lt_of_first_of_second (hplace hi) (hplace hj) ?_ ?_ <;>
      rw [← hplaces, ← List.map_take, List.mem_map]
    · rintro ⟨c, hc, hca⟩
      exact ha c hc hca
    · exact hb

end BearerAuth.ClientOption
