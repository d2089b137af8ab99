import HealthWatch.Net.SocketAddress
import Mathlib.Data.String.Basic

/-!
# Where texts are split

A text is split at each place of a mark (`splitOn_singleton`), so whether it can be read as an
address is seen of its characters.
-/

namespace HealthWatch

open String

/-- What is left to split is split between the marks, and what was read since the last mark
belongs to the first part. -/
theorem splitOnAux_of_valid {s : String} (c : Char) {l m r : List Char}
    (hs : s = ofList (l ++ m ++ r)) (parts : List String) :
    splitOnAux s (ofList [c]) ⟨utf8Len l⟩ ⟨utf8Len (l ++ m)⟩ 0 parts =
      parts.reverse ++ (List.splitOnPPrepend (· == c) r m.reverse).map ofList := by
  have hpart : ∀ l m r, s = ofList (l ++ m ++ r) →
      Pos.Raw.extract s ⟨utf8Len l⟩ ⟨utf8Len (l ++ m)⟩ = ofList m := by
    intro l m r hs
    rw [hs, utf8Len_append]
    exact extract_of_valid l m r
  induction r generalizing l m parts with
  | nil =>
    have hend : Pos.Raw.atEnd s ⟨utf8Len (l ++ m)⟩ = true := by
      rw [hs]
      exact (atEnd_of_valid (l ++ m) []).mpr rfl
    rw [splitOnAux, if_pos hend, hpart l m [] hs]
    simp
  | cons x r ih =>
    have hend : ¬Pos.Raw.atEnd s ⟨utf8Len (l ++ m)⟩ = true := by
      rw [hs]
      exact mt (atEnd_of_valid (l ++ m) (x :: r)).mp (List.cons_ne_nil x r)
    have hget : Pos.Raw.get s ⟨utf8Len (l ++ m)⟩ = x := by
      rw [hs]
      exact get_of_valid (l ++ m) (x :: r)
    have hnext : Pos.Raw.next s ⟨utf8Len (l ++ m)⟩ = ⟨utf8Len (l ++ m ++ [x])⟩ := by
      rw [hs, next_of_valid, utf8Len_append _ [x]]
      simp
    have hmark : Pos.Raw.get (ofList [c]) 0 = c := get_of_valid [] [c]
    rw [splitOnAux, if_neg hend, hget, hmark]
    by_cases hx : x = c
    · subst hx
      have hmarkNext : Pos.Raw.next (ofList [x]) 0 = ⟨utf8Len [x]⟩ :=
        (next_of_valid [] x []).trans (by simp)
      have hmarkEnd : Pos.Raw.atEnd (ofList [x]) ⟨utf8Len [x]⟩ = true :=
        (atEnd_of_valid [x] []).mpr rfl
      have hback : (⟨utf8Len (l ++ m ++ [x])⟩ : Pos.Raw).unoffsetBy ⟨utf8Len [x]⟩ =
          ⟨utf8Len (l ++ m)⟩ := by
        rw [Pos.Raw.unoffsetBy, utf8Len_append _ [x], Nat.add_sub_cancel]
      have hrest := ih (l := l ++ m ++ [x]) (m := []) (by simp [hs]) (ofList m :: parts)
      rw [List.append_nil] at hrest
      simp only [beq_self_eq_true, if_true, hnext, hmarkNext, hmarkEnd, hback,
        hpart l m (x :: r) hs, hrest]
      simp [List.splitOnPPrepend_cons_eq_if]
    · have hrest := ih (l := l) (m := m ++ [x]) (by simp [hs]) parts
      have hzero : (⟨utf8Len (l ++ m)⟩ : Pos.Raw).unoffsetBy 0 = ⟨utf8Len (l ++ m)⟩ := rfl
      rw [if_neg (mt beq_iff_eq.mp hx), hzero, hnext, List.append_assoc, hrest]
      simp [List.splitOnPPrepend_cons_eq_if, hx]

/-- A text is split at the places of a character. -/
theorem splitOn_singleton (s : String) (c : Char) :
    s.splitOn (ofList [c]) = (s.toList.splitOnP (· == c)).map ofList := by
  have hmark : (ofList [c] == "") = false := by
    simp
  rw [splitOn, hmark]
  have hwhole := splitOnAux_of_valid (s := s) c (l := []) (m := []) (r := s.toList) (by simp) []
  simpa using hwhole

namespace Net.SocketAddress

/-- What has no port and is not in brackets is no address. -/
theorem ofText?_of_not_mem {s : String} (hcolon : ':' ∉ s.toList)
    (hbracket : s.toList.head? ≠ some '[') : ofText? s = none := by
  have hsplit : s.splitOn ":" = [s] := by
    have hwhole : s.toList.splitOnP (· == ':') = [s.toList] := by
      refine List.splitOnP_eq_singleton fun c hc => beq_eq_false_iff_ne.mpr ?_
      rintro rfl
      exact hcolon hc
    refine (splitOn_singleton s ':').trans ?_
    rw [hwhole, List.map_singleton, ofList_toList]
  unfold ofText?
  split
  · next h => exact absurd (congrArg List.head? h) hbracket
  · rw [hsplit]

/-- Where the service listens if it is told nothing. -/
theorem ofText?_everywhere : ofText? "0.0.0.0:8080" = some (.v4 ⟨0, 0, 0, 0⟩ 8080) := by
  have hport : "0.0.0.0:8080".splitOn ":" = ["0.0.0.0", "8080"] :=
    (splitOn_singleton _ ':').trans (by decide +kernel)
  have hoctets : "0.0.0.0".splitOn "." = ["0", "0", "0", "0"] :=
    (splitOn_singleton _ '.').trans (by decide +kernel)
  have hip : Ipv4.ofText? "0.0.0.0" = some ⟨0, 0, 0, 0⟩ := by
    rw [Ipv4.ofText?, hoctets]
    decide +kernel
  have htext : ofText? "0.0.0.0:8080" = (Ipv4.ofText? "0.0.0.0").bind fun ip =>
      (port? "8080").bind fun port => some (.v4 ip port) := by
    simp [ofText?, hport]
  rw [htext, hip]
  decide +kernel

end Net.SocketAddress

end HealthWatch
