import BearerAuth.Json.Reader
import Mathlib.Data.List.DropRight

/-!
# What a reader took off

A reader made of two succeeds exactly if the first does and the second does on what is left
(`Reader.run_bind_eq_ok_iff`). A text read as a whole may have blanks after the value, and readers
that look for an octet pass blanks before it (`Reader.symbol_eq_some_iff`). What stands between is
the text without the blanks around it (`trimmed`).
-/

namespace BearerAuth.Json

variable {α β : Type} {b s rest : Bytes}

/-- Whether there are only blanks. -/
def IsBlanks (b : Bytes) : Prop :=
  ∀ x ∈ b, isBlank x = true

theorem isBlanks_iff : IsBlanks b ↔ b.dropWhile isBlank = [] := by
  unfold IsBlanks
  exact List.dropWhile_eq_nil_iff.symm

/-- Octets without the blanks around them. -/
def trimmed (b : Bytes) : Bytes :=
  (b.dropWhile isBlank).rdropWhile isBlank

theorem trimmed_append {before t after : Bytes} (hbefore : IsBlanks before)
    (hafter : IsBlanks after) (ht : ∀ x ∈ t, isBlank x = false) :
    trimmed (before ++ (t ++ after)) = t := by
  unfold trimmed
  rw [List.dropWhile_append_of_pos hbefore]
  cases t with
  | nil =>
    rw [List.nil_append, isBlanks_iff.1 hafter]
    rfl
  | cons x t =>
    have hx : ¬ isBlank x = true := by simp [ht x List.mem_cons_self]
    have hlate : ∀ y ∈ after.reverse, isBlank y = true :=
      fun y hy => hafter y (List.mem_reverse.1 hy)
    rw [List.cons_append, List.dropWhile_cons_of_neg hx, ← List.cons_append, List.rdropWhile,
      List.reverse_append, List.dropWhile_append_of_pos hlate]
    refine List.rdropWhile_eq_self_iff.2 fun hne => ?_
    simp [ht _ (List.getLast_mem hne)]

theorem exists_trimmed (b : Bytes) : ∃ before after, IsBlanks before ∧ IsBlanks after
    ∧ b = before ++ (trimmed b ++ after) := by
  refine ⟨b.takeWhile isBlank, (b.dropWhile isBlank).rtakeWhile isBlank,
    fun x hx => List.mem_takeWhile_imp hx, fun x hx => List.mem_rtakeWhile_imp hx, ?_⟩
  unfold trimmed
  rw [List.rdropWhile_append_rtakeWhile, List.takeWhile_append_dropWhile]

/-- What stands between blanks, if it has none itself. -/
theorem trimmed_eq_iff {t : Bytes} (ht : ∀ x ∈ t, isBlank x = false) :
    trimmed b = t ↔
      ∃ before after, IsBlanks before ∧ IsBlanks after ∧ b = before ++ (t ++ after) := by
  constructor
  · rintro rfl
    exact exists_trimmed b
  · rintro ⟨before, after, hbefore, hafter, rfl⟩
    exact trimmed_append hbefore hafter ht

theorem trimmed_of_not_isBlank {t : Bytes} (ht : ∀ x ∈ t, isBlank x = false) : trimmed t = t :=
  (trimmed_eq_iff ht).2 ⟨[], [], nofun, nofun, (List.append_nil t).symm⟩

namespace Reader

theorem run_bind_eq_ok_iff {r : Reader α} {f : α → Reader β} {b : β} :
    (r >>= f).run s = .ok (b, rest) ↔
      ∃ a t, r.run s = .ok (a, t) ∧ (f a).run t = .ok (b, rest) := by
  rw [run_bind]
  rcases hr : r.run s with e | ⟨a, t⟩
  · simp
  · simp

theorem ofExcept_eq_ok_iff {e : Except ReadError α} {a : α} :
    (ofExcept e).run s = .ok (a, rest) ↔ e = .ok a ∧ rest = s := by
  rcases e with e | a'
  · simp [ofExcept, refuse]
  · simp [ofExcept, eq_comm]

theorem symbol_eq_some_iff {x : UInt8} : symbol.run s = .ok (some x, rest) ↔
    isBlank x = false ∧ ∃ blanks, IsBlanks blanks ∧ s = blanks ++ x :: rest := by
  simp only [symbol, run_bind, takeWhile, octet, Except.ok.injEq, Prod.mk.injEq]
  constructor
  · rintro ⟨hx, rfl⟩
    have hs : s.dropWhile isBlank = x :: (s.dropWhile isBlank).tail :=
      (List.cons_head?_tail hx).symm
    refine ⟨?_, s.takeWhile isBlank, fun y hy => List.mem_takeWhile_imp hy, ?_⟩
    · have hstop := List.head?_dropWhile_not isBlank s
      rw [hx] at hstop
      exact Bool.eq_false_iff.2 (by simpa using hstop)
    · rw [← hs, List.takeWhile_append_dropWhile]
  · rintro ⟨hx, blanks, hblanks, rfl⟩
    rw [List.dropWhile_append_of_pos hblanks, List.dropWhile_cons_of_neg (by simp [hx])]
    exact ⟨rfl, rfl⟩

/-- A text is read as a whole if only blanks are left. -/
theorem whole_eq_ok_iff {r : Reader α} {a : α} :
    whole r s = .ok a ↔ ∃ rest, r.run s = .ok (a, rest) ∧ IsBlanks rest := by
  simp only [whole, run_bind, next, takeWhile, peek]
  rcases hr : r.run s with e | ⟨a', rest⟩
  · simp [Functor.map, Except.map]
  · rcases hrest : rest.dropWhile isBlank with _ | ⟨x, later⟩
    · have hblanks : IsBlanks rest := isBlanks_iff.2 hrest
      simp [Functor.map, Except.map, hrest, hblanks]
    · have hmore : ¬ IsBlanks rest := by simp [isBlanks_iff, hrest]
      simp [Functor.map, Except.map, refuse, hrest, hmore]

end Reader

end BearerAuth.Json
