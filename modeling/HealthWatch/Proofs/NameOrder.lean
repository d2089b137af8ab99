import HealthWatch.Proofs.NameMapEntries
import Mathlib.Tactic.SplitIfs

/-!
# The order of names as bytes

Names are listed by their characters, and their bytes follow the same order: of two texts
the one with the lesser character at the first difference has the lesser byte at the first
difference of their encodings (`bytes_lt`).  This is seen character by character, by the
lengths of the two encodings.
-/

namespace HealthWatch

/-- The bytes of a text. -/
def bytes (s : String) : List UInt8 := s.toUTF8.data.toList

theorem bytes_eq (s : String) : bytes s = s.toList.flatMap String.utf8EncodeChar := by
  rw [bytes, String.toUTF8, ← String.utf8Encode_toList, List.utf8Encode,
    List.toList_data_toByteArray]

theorem ofNat_lt_iff {a b : Nat} (ha : a < 256) (hb : b < 256) :
    UInt8.ofNat a < UInt8.ofNat b ↔ a < b := by
  rw [UInt8.lt_iff_toNat_lt, UInt8.toNat_ofNat', UInt8.toNat_ofNat', Nat.mod_eq_of_lt ha,
    Nat.mod_eq_of_lt hb]

theorem ofNat_eq_iff {a b : Nat} (ha : a < 256) (hb : b < 256) :
    UInt8.ofNat a = UInt8.ofNat b ↔ a = b := by
  rw [← UInt8.toNat_inj, UInt8.toNat_ofNat', UInt8.toNat_ofNat', Nat.mod_eq_of_lt ha,
    Nat.mod_eq_of_lt hb]

/-- Whatever follows, the encoding of a lesser character comes first. -/
theorem encodeChar_lt {c d : Char} (h : c < d) (x y : List UInt8) :
    String.utf8EncodeChar c ++ x < String.utf8EncodeChar d ++ y := by
  have hlt : c.val.toNat < d.val.toNat := UInt32.lt_iff_toNat_lt.mp h
  have hmax : d.val.toNat < 0x110000 := by
    rcases d.valid with h | h
    · exact Nat.lt_trans h (by decide)
    · exact h.2
  unfold String.utf8EncodeChar
  dsimp only
  generalize c.val.toNat = m at hlt
  generalize d.val.toNat = n at hlt hmax
  -- all bytes but the first hold one digit to the base 64 each
  have htwo : ∀ k : Nat, k / 4096 = k / 64 / 64 := fun k => by rw [Nat.div_div_eq_div_mul]
  have hthree : ∀ k : Nat, k / 262144 = k / 64 / 64 / 64 := fun k => by
    rw [Nat.div_div_eq_div_mul, Nat.div_div_eq_div_mul]
  simp only [htwo, hthree]
  -- the lengths of the two encodings, by the size of the characters
  split_ifs
  all_goals
    simp (disch := omega) only [List.cons_append, List.nil_append, List.cons_lt_cons_iff,
      ofNat_lt_iff, ofNat_eq_iff]
    omega

/-- Texts are in the order of their bytes. -/
theorem bytes_lt {s t : String} (h : s < t) : bytes s < bytes t := by
  rw [String.lt_iff] at h
  rw [bytes_eq, bytes_eq]
  generalize s.toList = cs at h
  generalize t.toList = ds at h
  induction cs generalizing ds with
  | nil =>
      cases ds with
      | nil => exact absurd h (List.lt_irrefl _)
      | cons d ds =>
          rw [List.flatMap_nil, List.flatMap_cons]
          cases hd : String.utf8EncodeChar d with
          | nil => exact absurd hd (String.utf8EncodeChar_ne_nil)
          | cons b bs => exact List.nil_lt_cons _ _
  | cons c cs ih =>
      cases ds with
      | nil => cases h
      | cons d ds =>
          rw [List.flatMap_cons, List.flatMap_cons]
          rcases List.cons_lt_cons_iff.mp h with hlt | ⟨rfl, hlt⟩
          · exact encodeChar_lt hlt _ _
          · exact List.append_left_lt (ih ds hlt)

end HealthWatch
