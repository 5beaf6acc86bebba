import DeckScript.Proofs.Text.Pieces

/-!
# Lower case

A text in lower case stays as it is under another change to lower case, and the change
brings in no blank and none of the characters that structure a settings file.

Beyond ASCII both are facts about a table of runs.  Codes that are images of a run lie in
no run themselves: the two are apart, or both take every second code and have different
parity (`Run.avoids`).
-/

namespace DeckScript.Text

/-! ## Characters that structure a text -/

/-- Blanks, and the characters `#`, `:`, `;`, `=`, `[` and `]`. -/
def structuralRanges : CodeRanges :=
  blankRanges ++ [(0x23, 0x23), (0x3A, 0x3B), (0x3D, 0x3D), (0x5B, 0x5B), (0x5D, 0x5D)]

/-- Whether `c` is a blank or structures a settings file. -/
def isStructural (c : Char) : Bool :=
  structuralRanges.contains c.toNat

theorem isStructural_of_isBlank {c : Char} (hblank : isBlank c = true) : isStructural c = true := by
  rw [isStructural, structuralRanges, CodeRanges.contains, List.any_append]
  exact Bool.or_eq_true_iff.2 (.inl hblank)

theorem toNat_ofNat {n : Nat} (hvalid : n.isValidChar) : (Char.ofNat n).toNat = n := by
  rw [Char.ofNat, dif_pos hvalid]
  rfl

namespace Case

/-! ## The table -/

/-- The last code that a run maps to. -/
def Run.lastImage (run : Run) : Nat :=
  run.image + (run.last - run.first)

theorem Run.le_of_image? {run : Run} {n code : Nat} (h : run.image? n = some code) :
    run.image ≤ code ∧ code ≤ run.lastImage ∧
      (run.step = 2 → code % 2 = run.image % 2) ∧ (run.first = run.last → code = run.image) := by
  unfold Run.image? at h
  split at h
  · next hn =>
    obtain ⟨hfirst, hlast, hstep⟩ := hn
    cases h
    refine ⟨by omega, by unfold lastImage; omega, fun htwo => ?_, by omega⟩
    rw [htwo] at hstep
    omega
  · cases h

/-- No code of the second run is an image of the first. -/
def Run.avoids (run other : Run) : Bool :=
  run.lastImage.blt other.first || other.last.blt run.image ||
    decide (other.step = 2) && (decide (run.step = 2) || decide (run.first = run.last)) &&
      decide (run.image % 2 ≠ other.first % 2)

theorem Run.image?_eq_none_of_avoids {run other : Run} (havoids : run.avoids other = true)
    {n code : Nat} (h : run.image? n = some code) : other.image? code = none := by
  obtain ⟨hlow, hhigh, htwo, hsingle⟩ := Run.le_of_image? h
  rw [Run.image?, if_neg]
  rintro ⟨hfirst, hlast, hstep⟩
  simp only [avoids, Bool.or_eq_true, Bool.and_eq_true, decide_eq_true_eq, Nat.blt_eq] at havoids
  rcases havoids with (hapart | hapart) | ⟨⟨hother, hrun⟩, hparity⟩
  · omega
  · omega
  · rw [hother] at hstep
    rcases hrun with hrun | hrun
    · have := htwo hrun
      omega
    · have := hsingle hrun
      omega

/-- What the table promises about the images of a run: they are characters, none of them a capital
of ASCII, a letter with a form of several characters, a blank or a structural character. -/
def Run.isSettled (run : Run) : Bool :=
  (decide (run.lastImage < 0xD800) || decide (0xDFFF < run.image) &&
      decide (run.lastImage < 0x110000)) &&
    decide (0x5A < run.image) &&
    CodeRanges.disjoint [(run.image, run.lastImage)] structuralRanges &&
    lowerExpansions.all fun expansion =>
      decide (expansion.1 < run.image) || decide (run.lastImage < expansion.1)

theorem lowerRuns_isSettled : (lowerRuns.all Run.isSettled) = true := by
  decide +kernel

theorem lowerRuns_avoid : (lowerRuns.all fun run => lowerRuns.all run.avoids) = true := by
  decide +kernel

/-! ## Characters -/

/-- A code that a run maps to. -/
structure IsImage (code : Nat) : Prop where
  valid : code.isValidChar
  notCapital : 0x5A < code
  notStructural : structuralRanges.contains code = false
  notExpanded : lowerExpansions.lookup code = none
  inNoRun : lowerRuns.findSome? (Run.image? · code) = none

theorem isImage_of_image? {run : Run} (hrun : run ∈ lowerRuns) {n code : Nat}
    (h : run.image? n = some code) : IsImage code := by
  obtain ⟨hlow, hhigh, -⟩ := Run.le_of_image? h
  have hsettled := List.all_eq_true.1 lowerRuns_isSettled run hrun
  simp only [Run.isSettled, Bool.and_eq_true, Bool.or_eq_true, List.all_eq_true,
    decide_eq_true_eq] at hsettled
  obtain ⟨⟨⟨hvalid, hcapital⟩, hstructural⟩, hexpansions⟩ := hsettled
  refine ⟨?_, by omega, ?_, ?_, ?_⟩
  · rcases hvalid with hvalid | ⟨hvalid, hvalid'⟩
    · exact .inl (by omega)
    · exact .inr ⟨by omega, by omega⟩
  · refine CodeRanges.not_contains_of_disjoint hstructural ?_
    exact (CodeRanges.contains_eq_true_iff _ _).2 ⟨_, List.mem_singleton_self _, hlow, hhigh⟩
  · rw [List.lookup_eq_none_iff]
    intro expansion hexpansion
    have := hexpansions expansion hexpansion
    rw [bne_iff_ne]
    omega
  · rw [List.findSome?_eq_none_iff]
    intro other hother
    have havoid := List.all_eq_true.1 lowerRuns_avoid run hrun
    exact Run.image?_eq_none_of_avoids (List.all_eq_true.1 havoid other hother) h

theorem IsImage.lowerChar {code : Nat} (h : IsImage code) :
    lowerChar (Char.ofNat code) = [Char.ofNat code] := by
  rw [Case.lowerChar, toNat_ofNat h.valid]
  split
  · next hascii =>
    have hcodes : ∀ n < 128, 0x5A < n → (Char.ofNat n).toLower = Char.ofNat n := by decide
    rw [hcodes code hascii h.notCapital]
  · rw [image, toNat_ofNat h.valid, h.notExpanded, h.inNoRun]

theorem lowerExpansions_settled : ∀ expansion ∈ lowerExpansions, ∀ code ∈ expansion.2,
    lowerChar (Char.ofNat code) = [Char.ofNat code] ∧ isStructural (Char.ofNat code) = false := by
  decide +kernel

/-- What a character becomes in lower case stays as it is, and it is no structural character unless
the character was the same one. -/
theorem mem_lowerChar {c d : Char} (hd : d ∈ lowerChar c) :
    lowerChar d = [d] ∧ (isStructural d = true → d = c) := by
  by_cases hascii : c.toNat < 128
  · have hcodes : ∀ n < 128,
        lowerChar (Char.ofNat n).toLower = [(Char.ofNat n).toLower] ∧
          (isStructural (Char.ofNat n).toLower = true →
            (Char.ofNat n).toLower = Char.ofNat n) := by decide +kernel
    rw [lowerChar, if_pos hascii, List.mem_singleton] at hd
    rw [hd]
    exact ascii_induction (P := fun c => lowerChar c.toLower = [c.toLower] ∧
      (isStructural c.toLower = true → c.toLower = c)) hcodes hascii
  · have himage : lowerChar c = image lowerExpansions lowerRuns c := if_neg hascii
    rw [himage, image] at hd
    split at hd
    · next codes hlookup =>
      obtain ⟨before, after, htable, -⟩ := List.lookup_eq_some_iff.1 hlookup
      obtain ⟨code, hcode, rfl⟩ := List.mem_map.1 hd
      have hsettled := lowerExpansions_settled (c.toNat, codes) (by simp [htable]) code hcode
      exact ⟨hsettled.1, fun hstructural => absurd hstructural (by simp [hsettled.2])⟩
    · next hlookup =>
      split at hd
      · next code hfound =>
        obtain ⟨run, hrun, hcode⟩ := List.exists_of_findSome?_eq_some hfound
        have hsettled := isImage_of_image? hrun hcode
        rw [List.mem_singleton.1 hd]
        refine ⟨hsettled.lowerChar, fun hstructural => ?_⟩
        rw [isStructural, toNat_ofNat hsettled.valid, hsettled.notStructural] at hstructural
        cases hstructural
      · next hnone =>
        rw [List.mem_singleton.1 hd]
        refine ⟨?_, fun _ => rfl⟩
        rw [himage, image, hlookup, hnone]

theorem lowerChar_ne_nil (c : Char) : lowerChar c ≠ [] := by
  by_cases hascii : c.toNat < 128
  · rw [lowerChar, if_pos hascii]
    exact List.cons_ne_nil _ _
  · rw [lowerChar, if_neg hascii, image]
    split
    · next codes hlookup =>
      obtain ⟨before, after, htable, -⟩ := List.lookup_eq_some_iff.1 hlookup
      have hcodes : ∀ expansion ∈ lowerExpansions, expansion.2 ≠ [] := by decide
      simpa using hcodes (c.toNat, codes) (by simp [htable])
    · split <;> exact List.cons_ne_nil _ _

/-! ## Texts -/

/-- The lower-case form of a character in its place: a capital sigma takes its final form at the end
of a word. -/
def lowerAt (before : List Char) (c : Char) (after : List Char) : List Char :=
  if c = 'Σ' then
    if startsCased before && !startsCased after then ['ς'] else ['σ']
  else lowerChar c

theorem lowerAfter_cons (before : List Char) (c : Char) (cs : List Char) :
    lowerAfter before (c :: cs) = lowerAt before c cs ++ lowerAfter (c :: before) cs := rfl

theorem mem_lowerAt {before after : List Char} {c d : Char} (hd : d ∈ lowerAt before c after) :
    lowerChar d = [d] ∧ (isStructural d = true → d = c) := by
  unfold lowerAt at hd
  split at hd
  · have hsigma : d = 'ς' ∨ d = 'σ' := by
      split at hd
      · exact .inl (List.mem_singleton.1 hd)
      · exact .inr (List.mem_singleton.1 hd)
    rcases hsigma with rfl | rfl
    · exact ⟨by decide +kernel, fun hstructural => absurd hstructural (by decide)⟩
    · exact ⟨by decide +kernel, fun hstructural => absurd hstructural (by decide)⟩
  · exact mem_lowerChar hd

theorem lowerAt_ne_nil (before : List Char) (c : Char) (after : List Char) :
    lowerAt before c after ≠ [] := by
  unfold lowerAt
  split
  · split <;> exact List.cons_ne_nil _ _
  · exact lowerChar_ne_nil c

theorem lowerAfter_eq_self {cs : List Char} (hcs : ∀ c ∈ cs, lowerChar c = [c])
    (before : List Char) : lowerAfter before cs = cs := by
  induction cs generalizing before with
  | nil => rfl
  | cons c cs ih =>
    have hhere : lowerChar c = [c] := hcs c (List.mem_cons_self ..)
    have hsigma : c ≠ 'Σ' := by
      rintro rfl
      exact absurd hhere (by decide +kernel)
    rw [lowerAfter_cons, lowerAt, if_neg hsigma, hhere,
      ih fun d hd => hcs d (List.mem_cons_of_mem _ hd), List.singleton_append]

theorem mem_lowerAfter {before cs : List Char} {d : Char} (hd : d ∈ lowerAfter before cs) :
    lowerChar d = [d] ∧ (isStructural d = true → d ∈ cs) := by
  induction cs generalizing before with
  | nil => cases hd
  | cons c cs ih =>
    rcases List.mem_append.1 (lowerAfter_cons before c cs ▸ hd) with hhere | hrest
    · obtain ⟨hsettled, hsame⟩ := mem_lowerAt hhere
      exact ⟨hsettled, fun hstructural => List.mem_cons.2 (.inl (hsame hstructural))⟩
    · obtain ⟨hsettled, hmem⟩ := ih hrest
      exact ⟨hsettled, fun hstructural => List.mem_cons_of_mem _ (hmem hstructural)⟩

theorem lowerAfter_eq_nil_iff {before cs : List Char} : lowerAfter before cs = [] ↔ cs = [] := by
  cases cs with
  | nil => simp [lowerAfter]
  | cons c cs => simp [lowerAfter_cons, lowerAt_ne_nil]

/-- A structural character at the end was there before. -/
theorem mem_getLast?_lowerAfter {before cs : List Char} {d : Char}
    (hd : d ∈ (lowerAfter before cs).getLast?) (hstructural : isStructural d = true) :
    d ∈ cs.getLast? := by
  induction cs generalizing before with
  | nil => cases hd
  | cons c cs ih =>
    rw [lowerAfter_cons] at hd
    cases cs with
    | nil =>
      rw [lowerAfter, List.append_nil] at hd
      rw [(mem_lowerAt (List.mem_of_getLast? hd)).2 hstructural]
      rfl
    | cons c' cs =>
      have hne : lowerAfter (c :: before) (c' :: cs) ≠ [] :=
        mt lowerAfter_eq_nil_iff.1 (List.cons_ne_nil _ _)
      rw [List.getLast?_append_of_ne_nil _ hne] at hd
      exact ih hd

/-- A structural character at the start was there before. -/
theorem mem_head?_lowerAfter {before cs : List Char} {d : Char}
    (hd : d ∈ (lowerAfter before cs).head?) (hstructural : isStructural d = true) :
    d ∈ cs.head? := by
  cases cs with
  | nil => cases hd
  | cons c cs =>
    rw [lowerAfter_cons, List.head?_append_of_ne_nil _ (lowerAt_ne_nil before c cs)] at hd
    rw [(mem_lowerAt (List.mem_of_mem_head? hd)).2 hstructural]
    rfl

/-- A structural character after the start was there before, and after the start. -/
theorem mem_tail_lowerAfter {before cs : List Char} {d : Char}
    (hd : d ∈ (lowerAfter before cs).tail) (hstructural : isStructural d = true) :
    d ∈ cs.tail := by
  cases cs with
  | nil => cases hd
  | cons c cs =>
    rw [lowerAfter_cons, List.tail_append_of_ne_nil (lowerAt_ne_nil before c cs)] at hd
    rcases List.mem_append.1 hd with hhere | hrest
    · -- a structural character is its own lower-case form, so nothing comes after it
      obtain ⟨hsettled, hsame⟩ := mem_lowerAt (List.mem_of_mem_tail hhere)
      have hsigma : d ≠ 'Σ' := by
        rintro rfl
        exact absurd hsettled (by decide +kernel)
      rw [← hsame hstructural, lowerAt, if_neg hsigma, hsettled] at hhere
      cases hhere
    · exact (mem_lowerAfter hrest).2 hstructural

end Case

@[simp] theorem lower_lower (cs : List Char) : lower (lower cs) = lower cs :=
  Case.lowerAfter_eq_self (fun _ hc => (Case.mem_lowerAfter hc).1) []

theorem lower_eq_nil_iff {cs : List Char} : lower cs = [] ↔ cs = [] :=
  Case.lowerAfter_eq_nil_iff

/-- The change to lower case brings in no structural character. -/
theorem mem_of_mem_lower {cs : List Char} {c : Char} (hc : c ∈ lower cs)
    (hstructural : isStructural c = true) : c ∈ cs :=
  (Case.mem_lowerAfter hc).2 hstructural

theorem Tight.lower {cs : List Char} (htight : Tight cs) : Tight (lower cs) := by
  constructor
  · intro c hc
    by_contra hblank
    rw [Bool.not_eq_false] at hblank
    have hhead := Case.mem_head?_lowerAfter hc (isStructural_of_isBlank hblank)
    rw [htight.1 c hhead] at hblank
    cases hblank
  · intro c hc
    by_contra hblank
    rw [Bool.not_eq_false] at hblank
    have hlast := Case.mem_getLast?_lowerAfter hc (isStructural_of_isBlank hblank)
    rw [htight.2 c hlast] at hblank
    cases hblank

end DeckScript.Text
