import DeckScript.Command.Session
import Mathlib.Data.List.Nodup
import Mathlib.Data.List.Perm.Subperm
import Std.Data.String.ToInt

/-!
# Ids of new slides

An id is the stem followed by a number, and different numbers give different ids.  So
if an id that was chosen after `n` trials were taken all the same, `n + 1` ids would
be, and there are not as many.
-/

namespace DeckScript.Session

theorem writeInt_eq_ok {n : Int} {digits : String} (h : Number.writeInt n = .ok digits) :
    digits = n.repr := by
  unfold Number.writeInt at h
  split at h
  · exact (Except.ok.inj h).symm
  · cases h

/-- The id with a given number. -/
def numberedId (stem : String) (n : Int) : String :=
  stem ++ n.repr

theorem numberedId_injective (stem : String) : Function.Injective (numberedId stem) := by
  intro m n h
  exact Int.repr_injective (by simpa [numberedId] using h)

/-- An id that is taken although `attempts` numbers were tried: these were taken as well. -/
theorem taken_of_freshId {taken : List String} {stem : String} :
    ∀ {attempts : Nat} {stamp : Int} {id : String},
      freshId taken stem attempts stamp = .ok id → id ∈ taken →
      ∀ k : Nat, k ≤ attempts → numberedId stem (stamp + k) ∈ taken
  | 0, stamp, id, hid, htaken => by
    intro k hk
    obtain rfl : k = 0 := by omega
    cases hdigits : Number.writeInt stamp with
    | error error => simp [freshId, hdigits, Except.map] at hid
    | ok digits =>
      obtain rfl : stem ++ digits = id := by simpa [freshId, hdigits, Except.map] using hid
      simpa [numberedId, writeInt_eq_ok hdigits] using htaken
  | attempts + 1, stamp, id, hid, htaken => by
    cases hdigits : Number.writeInt stamp with
    | error error => simp [freshId, hdigits] at hid
    | ok digits =>
      simp only [freshId, hdigits] at hid
      split at hid
      · rename_i hfirst
        intro k hk
        cases k with
        | zero => simpa [numberedId, writeInt_eq_ok hdigits] using hfirst
        | succ k =>
          have hnumber : stamp + (k + 1 : Nat) = stamp + 1 + k := by omega
          rw [hnumber]
          exact taken_of_freshId hid htaken k (by omega)
      · -- the number was tried and found free
        rename_i hfree
        obtain rfl : stem ++ digits = id := by simpa using hid
        exact absurd htaken (by simpa using hfree)

/-- Of one more number than there are ids, not all are taken. -/
theorem exists_free (taken : List String) (stem : String) (stamp : Int) :
    ∃ k : Nat, k ≤ taken.length ∧ numberedId stem (stamp + k) ∉ taken := by
  by_contra! hall
  let tried := (List.range (taken.length + 1)).map fun k : Nat => numberedId stem (stamp + k)
  have hnodup : tried.Nodup := by
    refine List.nodup_range.map ?_
    intro j k hjk
    have := numberedId_injective stem hjk
    omega
  have hsubset : tried ⊆ taken := by
    intro name hname
    obtain ⟨k, hk, rfl⟩ := List.mem_map.1 hname
    exact hall k (Nat.lt_succ_iff.1 (List.mem_range.1 hk))
  have hle := (List.subperm_of_subset hnodup hsubset).length_le
  simp only [tried, List.length_map, List.length_range] at hle
  omega

/-- As many trials as there are ids suffice for one that is not among them. -/
theorem freshId_not_mem {taken : List String} {stem : String} {stamp : Int} {id : String}
    (h : freshId taken stem taken.length stamp = .ok id) : id ∉ taken := by
  intro htaken
  obtain ⟨k, hk, hfree⟩ := exists_free taken stem stamp
  exact hfree (taken_of_freshId h htaken k hk)

end DeckScript.Session
