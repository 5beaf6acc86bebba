import DeckScript.Proofs.Command.FreshId
import DeckScript.Proofs.Deck.Action
import DeckScript.Proofs.Number.Limit
import Mathlib.Data.Nat.Find
import Mathlib.Order.Bounds.Basic

/-!
# The least free number

The id of a new slide is looked for by counting: as long as the id with the present
number is taken, the number is raised by one.  `Session.freshId` is told how often it
may do so.  Here the loop stands without such a bound, as the relation `Counting`, and
it turns out to come to an end within as many rounds as there are slides.

What it ends with is the least number from the stamp on that is free.  There is one way
not to get there: a number beyond the limit for writing breaks the loop off.  This
happens exactly if the stamp itself or the least free number is beyond the limit.

## Strategy

That a free number comes soon is `exists_free`.  From there `Counting` is built
backwards, one round at a time, down to the stamp; `freshId` follows it as long as it
has rounds to spare.
-/

namespace DeckScript.Session

/-! ## The loop -/

/-- The loop that looks for a free id: with the number `stamp` it ends after so many rounds, with an
id or because the number cannot be written. -/
inductive Counting (taken : List String) (stem : String) :
    Int → Nat → Except NumberError String → Prop
  | unwritable {stamp : Int} {error : NumberError} (hwrite : Number.writeInt stamp = .error error) :
      Counting taken stem stamp 0 (.error error)
  | free {stamp : Int} {digits : String} (hwrite : Number.writeInt stamp = .ok digits)
      (hfree : stem ++ digits ∉ taken) : Counting taken stem stamp 0 (.ok (stem ++ digits))
  | bump {stamp : Int} {digits : String} {rounds : Nat} {result : Except NumberError String}
      (hwrite : Number.writeInt stamp = .ok digits) (htaken : stem ++ digits ∈ taken)
      (rest : Counting taken stem (stamp + 1) rounds result) :
      Counting taken stem stamp (rounds + 1) result

/-- With rounds enough, the bounded search does what the loop does. -/
theorem Counting.freshId_eq {taken : List String} {stem : String} {stamp : Int} {rounds : Nat}
    {result : Except NumberError String} (hcounting : Counting taken stem stamp rounds result)
    {attempts : Nat} (hle : rounds ≤ attempts) : freshId taken stem attempts stamp = result := by
  induction hcounting generalizing attempts with
  | unwritable hwrite => cases attempts <;> simp [freshId, hwrite, Except.map]
  | free hwrite hfree => cases attempts <;> simp [freshId, hwrite, hfree, Except.map]
  | bump hwrite htaken rest ih =>
    cases attempts with
    | zero => exact absurd hle (by omega)
    | succ attempts =>
      simp only [freshId, hwrite, List.contains_iff_mem.2 htaken, if_true]
      exact ih (by omega)

/-- The loop up to a free number before which all are taken.  Beyond the limit it does not get
there. -/
theorem exists_counting {taken : List String} {stem : String} {stamp : Int} {distance : Nat}
    (htaken : ∀ k < distance, numberedId stem (stamp + k) ∈ taken)
    (hfree : numberedId stem (stamp + distance) ∉ taken) :
    ∃ rounds result, rounds ≤ distance ∧ Counting taken stem stamp rounds result ∧
      if stamp.natAbs < Number.writeLimit ∧ (stamp + distance).natAbs < Number.writeLimit then
        rounds = distance ∧ result = .ok (numberedId stem (stamp + distance))
      else result = .error .tooLongToWrite := by
  induction distance generalizing stamp with
  | zero =>
    have hsame : stamp + (0 : Nat) = stamp := Int.add_zero stamp
    rw [hsame] at hfree ⊢
    by_cases hwritable : stamp.natAbs < Number.writeLimit
    · refine ⟨0, _, Nat.le_refl 0, .free (Number.writeInt_of_lt hwritable) hfree, ?_⟩
      rw [if_pos ⟨hwritable, hwritable⟩]
      exact ⟨rfl, rfl⟩
    · refine ⟨0, _, Nat.le_refl 0, .unwritable (Number.writeInt_of_not_lt hwritable), ?_⟩
      rw [if_neg fun h => hwritable h.1]
  | succ distance ih =>
    by_cases hwritable : stamp.natAbs < Number.writeLimit
    · have hnext (k : Nat) : stamp + (k + 1 : Nat) = stamp + 1 + k := by omega
      rw [hnext] at hfree ⊢
      have hfirst : numberedId stem (stamp + (0 : Nat)) ∈ taken := htaken 0 (by omega)
      have hlater : ∀ k < distance, numberedId stem (stamp + 1 + k) ∈ taken := by
        intro k hk
        rw [← hnext]
        exact htaken (k + 1) (by omega)
      rw [show stamp + (0 : Nat) = stamp from Int.add_zero stamp] at hfirst
      obtain ⟨rounds, result, hle, hcounting, hresult⟩ := ih hlater hfree
      refine ⟨rounds + 1, result, by omega,
        .bump (Number.writeInt_of_lt hwritable) hfirst hcounting, ?_⟩
      -- numbers within the limit have no gap, so the next one is as good as this one
      have hconvex :
          (stamp + 1).natAbs < Number.writeLimit ∧
              (stamp + 1 + distance).natAbs < Number.writeLimit ↔
            stamp.natAbs < Number.writeLimit ∧
              (stamp + 1 + distance).natAbs < Number.writeLimit := by
        omega
      simp only [hconvex] at hresult
      split at hresult
      · next hboth =>
        rw [if_pos hboth]
        exact ⟨by omega, hresult.2⟩
      · next hboth =>
        rw [if_neg hboth]
        exact hresult
    · refine ⟨0, _, Nat.zero_le _, .unwritable (Number.writeInt_of_not_lt hwritable), ?_⟩
      rw [if_neg fun h => hwritable h.1]

/-! ## The least free number -/

/-- The numbers from `stamp` on that no id ends with. -/
def freeNumbers (taken : List String) (stem : String) (stamp : Int) : Set Int :=
  {n | stamp ≤ n ∧ numberedId stem n ∉ taken}

/-- A least free number exists, no further away than there are ids. -/
theorem exists_least_free (taken : List String) (stem : String) (stamp : Int) :
    ∃ distance : Nat, distance ≤ taken.length ∧
      (∀ k < distance, numberedId stem (stamp + k) ∈ taken) ∧
      IsLeast (freeNumbers taken stem stamp) (stamp + distance) := by
  have hexists : ∃ k : Nat, numberedId stem (stamp + k) ∉ taken := by
    obtain ⟨k, -, hfree⟩ := exists_free taken stem stamp
    exact ⟨k, hfree⟩
  refine ⟨Nat.find hexists, ?_, ?_, ⟨⟨by omega, Nat.find_spec hexists⟩, ?_⟩⟩
  · obtain ⟨k, hk, hfree⟩ := exists_free taken stem stamp
    exact Nat.le_trans (Nat.find_min' hexists hfree) hk
  · intro k hk
    exact not_not.1 (Nat.find_min hexists hk)
  · rintro n ⟨hle, hfree⟩
    obtain ⟨k, rfl⟩ := Int.le.dest hle
    have hmin := Nat.find_min' hexists hfree
    omega

theorem run_newId {session : Session} {start : Int} (hstamp : stamp session.now = .ok start)
    (deck : Deck) :
    (newId deck).run session =
      ((freshId deck.ids session.idStem deck.length start).mapError .number, session) := by
  simp only [newId, convert, hstamp, Attempt.run_bind, Attempt.run_get, Attempt.run_ofExcept_ok]
  rw [← Deck.ids]
  cases freshId deck.ids session.idStem deck.length start <;> rfl

/-- **New ids end with the least free number.**  From every stamp the least free number is at most
as many numbers away as there are slides.  The loop ends within as many rounds, and the bounded
search gives its result.  With a stamp and a least
free number within the limit for writing, the result is the id with that number, one round for each
number passed over; otherwise the conversion to text breaks the loop off. -/
theorem freshId_least (deck : Deck) (stem : String) (start : Int) :
    ∃ (n : Int) (rounds : Nat) (result : Except NumberError String),
      IsLeast (freeNumbers deck.ids stem start) n ∧ n ≤ start + deck.length ∧
      Counting deck.ids stem start rounds result ∧ rounds ≤ deck.length ∧
      (∀ attempts, deck.length ≤ attempts → freshId deck.ids stem attempts start = result) ∧
      (∀ session : Session, session.idStem = stem → stamp session.now = .ok start →
        (newId deck).run session = (result.mapError .number, session)) ∧
      if start.natAbs < Number.writeLimit ∧ n.natAbs < Number.writeLimit then
        n = start + rounds ∧ result = .ok (numberedId stem n)
      else result = .error .tooLongToWrite := by
  obtain ⟨distance, hdistance, htaken, hleast⟩ := exists_least_free deck.ids stem start
  obtain ⟨rounds, result, hle, hcounting, hresult⟩ := exists_counting htaken hleast.1.2
  have hlength : deck.ids.length = deck.length := List.length_map ..
  have hfresh : ∀ attempts, deck.length ≤ attempts →
      freshId deck.ids stem attempts start = result :=
    fun attempts hattempts => hcounting.freshId_eq (by omega)
  refine ⟨_, rounds, result, hleast, by omega, hcounting, by omega, hfresh, ?_, ?_⟩
  · rintro session rfl hstamp
    rw [run_newId hstamp, hfresh _ (Nat.le_refl _)]
  · split at hresult
    · next hboth =>
      obtain ⟨rfl, hid⟩ := hresult
      rw [if_pos hboth]
      exact ⟨rfl, hid⟩
    · next hboth =>
      rw [if_neg hboth]
      exact hresult

/-- Three slides, two of them with the same id. -/
def crowded : Deck :=
  [{ id := "s-1000" }, { id := "s-999" }, { id := "s-1000" }]

/-- A second before the epoch, two numbers are passed over. -/
theorem freshId_least_crowded :
    (newId crowded).run (start crowded .empty "s" 900 (.int (-1))) =
      (.ok "s-998", start crowded .empty "s" 900 (.int (-1))) := by
  obtain ⟨n, rounds, result, hleast, -, -, -, -, hrun, hresult⟩ :=
    freshId_least crowded "s" (-1000)
  have hknown : IsLeast (freeNumbers crowded.ids "s" (-1000)) (-998) := by
    refine ⟨⟨by decide, by decide⟩, ?_⟩
    rintro k ⟨hle, hfree⟩
    by_contra hlt
    obtain rfl | rfl : k = -1000 ∨ k = -999 := by omega
    · exact hfree (by decide)
    · exact hfree (by decide)
  obtain rfl := hleast.unique hknown
  have hlimit {k : Nat} (hk : k < 10000) : k < Number.writeLimit :=
    Number.lt_writeLimit (n := 4) hk (by decide)
  rw [if_pos ⟨hlimit (by decide), hlimit (by decide)⟩] at hresult
  rw [hrun (start crowded .empty "s" 900 (.int (-1))) rfl (by decide), hresult.2]
  rfl

/-- A stamp of 4301 digits gives no id at all. -/
theorem not_forall_freshId_least :
    ¬∀ (deck : Deck) (stem : String) (start : Int),
      ∃ n, IsLeast (freeNumbers deck.ids stem start) n ∧
        freshId deck.ids stem deck.length start = .ok (numberedId stem n) := by
  intro hall
  obtain ⟨n, -, hid⟩ := hall [] defaultStem Number.writeLimit
  have hlong : ¬(Number.writeLimit : Int).natAbs < Number.writeLimit := by
    rw [Int.natAbs_natCast]
    exact Nat.lt_irrefl _
  simp [freshId, Number.writeInt_of_not_lt hlong, Except.map] at hid

end DeckScript.Session
