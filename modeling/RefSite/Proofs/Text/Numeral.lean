import RefSite.Text.Numeral

namespace RefSite.Text

variable {base n m d : Nat} {c : Char} {t : Text} {w : UInt32}

/-- The number as a word, if it fits. -/
def word? (n : Nat) : Option UInt32 :=
  if n < UInt32.size then some (UInt32.ofNat n) else none

def pushDigit? (base : Nat) (w : UInt32) (c : Char) : Option UInt32 := do
  let shifted ← word? (base * w.toNat)
  let d ← digit? base c
  word? (shifted.toNat + d)

def wordNumeral? (base : Nat) : Text → Option UInt32
  | [] => none
  | digits => digits.foldlM (pushDigit? base) 0

theorem word?_toNat (w : UInt32) : word? w.toNat = some w := by
  rw [word?, if_pos w.toNat_lt_size, UInt32.ofNat_toNat]

theorem word?_eq_some_iff : word? n = some w ↔ w.toNat = n := by
  constructor
  · intro h
    rw [word?] at h
    split at h
    · rename_i hn
      rw [← Option.some.inj h, UInt32.toNat_ofNat_of_lt' hn]
    · cases h
  · rintro rfl
    exact word?_toNat w

theorem word?_eq_none_iff : word? n = none ↔ UInt32.size ≤ n := by
  rw [word?]
  split <;> simp_all

theorem isAlphanum_of_digit? (h : digit? base c = some n) : c.isAlphanum = true := by
  obtain ⟨h, -⟩ := Option.filter_eq_some_iff.mp h
  have letter (h : c.isUpper = true ∨ c.isLower = true) : c.isAlphanum = true :=
    (Bool.or_eq_true _ _).mpr (.inl ((Bool.or_eq_true _ _).mpr h))
  have between {a b : Char} (h : a ≤ c ∧ c ≤ b) : (a ≤ c && c ≤ b) = true := by simp [h]
  split at h
  case isTrue hdigit => exact (Bool.or_eq_true _ _).mpr (.inr (between hdigit))
  split at h
  case isTrue hlower => exact letter (.inr (between hlower))
  split at h
  case isTrue hupper => exact letter (.inl (decide_eq_true hupper))
  cases h

theorem lt_of_digit? (h : digit? base c = some d) : d < base := by
  simpa using (Option.filter_eq_some_iff.mp h).2

/-- Both checks of a digit succeed just if the number with the digit fits. -/
theorem pushDigit?_of_digit? (h : digit? base c = some d) :
    pushDigit? base w c = word? (base * w.toNat + d) := by
  cases hs : word? (base * w.toNat) with
  | none =>
    have hlarge : word? (base * w.toNat + d) = none := by
      rw [word?_eq_none_iff] at hs ⊢
      omega
    rw [hlarge, pushDigit?, hs]
    rfl
  | some shifted =>
    rw [pushDigit?, hs, h, ← word?_eq_some_iff.mp hs]
    rfl

theorem pushDigit?_of_none (h : digit? base c = none) : pushDigit? base w c = none := by
  rw [pushDigit?, h]
  cases word? (base * w.toNat) <;> rfl

theorem numeral?_eq_foldlM (h : t ≠ []) :
    numeral? base t = t.foldlM (fun n c => (digit? base c).map (base * n + ·)) 0 := by
  cases t with
  | nil => exact absurd rfl h
  | cons c t => rfl

theorem le_of_foldlM
    (h : t.foldlM (fun n c => (digit? base c).map (base * n + ·)) n = some m) : n ≤ m := by
  induction t generalizing n with
  | nil => exact Nat.le_of_eq (Option.some.inj h)
  | cons c t ih =>
    rw [List.foldlM_cons] at h
    obtain ⟨n', hpush, hrest⟩ := Option.bind_eq_some_iff.mp h
    obtain ⟨d, hd, rfl⟩ := Option.map_eq_some_iff.mp hpush
    have hbase : 1 * n ≤ base * n := Nat.mul_le_mul_right n (Nat.zero_lt_of_lt (lt_of_digit? hd))
    have hgrown := ih hrest
    omega

theorem foldlM_pushDigit? (t : Text) (w : UInt32) :
    t.foldlM (pushDigit? base) w =
      t.foldlM (fun n c => (digit? base c).map (base * n + ·)) w.toNat >>= word? := by
  induction t generalizing w with
  | nil => exact (word?_toNat w).symm
  | cons c t ih =>
    rw [List.foldlM_cons, List.foldlM_cons]
    cases hd : digit? base c with
    | none =>
      rw [pushDigit?_of_none hd]
      rfl
    | some d =>
      rw [pushDigit?_of_digit? hd]
      cases hw : word? (base * w.toNat + d) with
      | some w' =>
        have hn := word?_eq_some_iff.mp hw
        simpa [← hn] using ih w'
      | none =>
        -- what follows cannot make the number fit again
        symm
        refine Option.bind_eq_none_iff.mpr fun m hm => word?_eq_none_iff.mpr ?_
        have hgrown : base * w.toNat + d ≤ m := le_of_foldlM hm
        exact Nat.le_trans (word?_eq_none_iff.mp hw) hgrown

/-- Checking at each digit refuses what a check at the end refuses. -/
theorem wordNumeral?_eq (base : Nat) (t : Text) :
    wordNumeral? base t = numeral? base t >>= word? := by
  cases t with
  | nil => rfl
  | cons c t => exact foldlM_pushDigit? (c :: t) 0

theorem character?_toNat (c : Char) : character? c.toNat = some c := by
  have h : c.toNat.isValidChar := c.valid
  rw [character?, if_pos h, Char.ofNat_toNat]

theorem character?_eq_some_iff : character? n = some c ↔ c.toNat = n := by
  constructor
  · intro h
    rw [character?] at h
    split at h
    · rename_i hn
      rw [← Option.some.inj h, Char.ofNat, dif_pos hn]
      rfl
    · cases h
  · rintro rfl
    exact character?_toNat c

/-- A number that does not fit a word is no code point. -/
theorem wordNumeral?_character (base : Nat) (t : Text) :
    (wordNumeral? base t >>= fun w => character? w.toNat) = numeral? base t >>= character? := by
  rw [wordNumeral?_eq]
  cases numeral? base t with
  | none => rfl
  | some n =>
    cases hw : word? n with
    | some w => simp [hw, word?_eq_some_iff.mp hw]
    | none =>
      have hlarge := word?_eq_none_iff.mp hw
      have hnone : character? n = none := by
        refine Option.eq_none_iff_forall_ne_some.mpr fun c hc => ?_
        have hc := character?_eq_some_iff.mp hc
        have hlt : c.toNat < UInt32.size := c.val.toNat_lt_size
        omega
      simp [hw, hnone]

end RefSite.Text
