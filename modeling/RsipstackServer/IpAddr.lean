import RsipstackServer.Codec
import RsipstackServer.Foundation.Decimal

namespace RsipstackServer
open Foundation

inductive IpAddr
  | v4 (a b c d : UInt8)
  | v6 (segments : List UInt16) (eight : segments.length = 8)
  deriving DecidableEq

/-- A stretch of segments, by its first index and its length. -/
structure Span where
  start : Nat
  len : Nat

namespace IpAddr

def v4Text (a b c d : UInt8) : Text :=
  decimal a.toNat ++ '.' :: decimal b.toNat ++ '.' :: decimal c.toNat ++ '.' :: decimal d.toNat

/-- The first of the longest stretches of zero segments. -/
def longestZeroes (segments : List UInt16) : Span :=
  (segments.zipIdx.foldl
    (fun (longest, current) (segment, i) =>
      if segment = 0 then
        let grown : Span := ⟨if current.len = 0 then i else current.start, current.len + 1⟩
        (if longest.len < grown.len then grown else longest, grown)
      else (longest, ⟨0, 0⟩))
    ((⟨0, 0⟩ : Span), (⟨0, 0⟩ : Span))).1

def segmentsText (segments : List UInt16) : Text :=
  [':'].intercalate (segments.map fun segment => Nat.toDigits 16 segment.toNat)

def v6Text (segments : List UInt16) : Text :=
  match segments with
  | [0, 0, 0, 0, 0, 0xffff, ab, cd] =>
    "::ffff:".toList ++
      v4Text (ab.toNat / 256).toUInt8 (ab.toNat % 256).toUInt8 (cd.toNat / 256).toUInt8 (cd.toNat % 256).toUInt8
  | _ =>
    let zeroes := longestZeroes segments
    if 1 < zeroes.len then
      segmentsText (segments.take zeroes.start) ++ "::".toList ++ segmentsText
        (segments.drop (zeroes.start + zeroes.len))
    else segmentsText segments

/-- The text of an address as the standard library displays it. -/
def display : IpAddr → Text
  | v4 a b c d => v4Text a b c d
  | v6 segments _ => v6Text segments

def isAddressChar (c : Char) : Bool := c.isDigit || "abcdef:.".toList.contains c

/-- The text of an address in which every character is one of addresses. -/
def Plain (text : Text) : Prop := ∀ c ∈ text, isAddressChar c = true

theorem Plain.append {a b : Text} (first : Plain a) (second : Plain b) : Plain (a ++ b) := by
  intro c member
  exact (List.mem_append.mp member).elim (first c) (second c)

instance (text : Text) : Decidable (Plain text) := List.decidableBAll (fun c => isAddressChar c = true) text

theorem plain_decimal (n : Nat) : Plain (decimal n) := by
  intro c member
  rw [isAddressChar, isDigit_of_mem_decimal member, Bool.true_or]

theorem plain_v4Text (a b c d : UInt8) : Plain (v4Text a b c d) := by
  have dot : Plain ['.'] := by decide
  have whole : v4Text a b c d = decimal a.toNat ++ (['.'] ++ (decimal b.toNat ++ (['.'] ++ (decimal c.toNat ++
      (['.'] ++ decimal d.toNat))))) := by simp [v4Text]
  rw [whole]
  exact (plain_decimal _).append (dot.append ((plain_decimal _).append (dot.append ((plain_decimal _).append
    (dot.append (plain_decimal _))))))

theorem plain_hexadecimal (n : Nat) : Plain (Nat.toDigits 16 n) := by
  induction n using Nat.strongRecOn with
  | ind n ih =>
    have digit : ∀ d < 16, Plain [d.digitChar] := by decide
    rw [Nat.toDigits_eq_if (by decide)]
    split
    · exact digit n ‹_›
    · exact (ih (n / 16) (by omega)).append (digit (n % 16) (by omega))

theorem plain_segmentsText (segments : List UInt16) : Plain (segmentsText segments) := by
  unfold segmentsText
  induction segments with
  | nil => exact nofun
  | cons segment later ih =>
    have first : Plain (Nat.toDigits 16 segment.toNat) := plain_hexadecimal segment.toNat
    have colon : Plain [':'] := by decide
    cases later with
    | nil =>
      rw [List.map_singleton, List.intercalate_singleton]
      exact first
    | cons second rest =>
      rw [List.map_cons, List.map_cons, List.intercalate_cons_cons]
      exact (first.append colon).append ih

theorem plain_display (address : IpAddr) : Plain address.display := by
  cases address with
  | v4 a b c d => exact plain_v4Text a b c d
  | v6 segments eight =>
    have mapped : Plain "::ffff:".toList := by decide
    have gap : Plain "::".toList := by decide
    have whole : (v6 segments eight).display = v6Text segments := rfl
    rw [whole]
    unfold v6Text
    split
    · exact mapped.append (plain_v4Text _ _ _ _)
    · dsimp only
      split
      · exact ((plain_segmentsText _).append gap).append (plain_segmentsText _)
      · exact plain_segmentsText segments

theorem colon_not_mem_v4Text (a b c d : UInt8) : ':' ∉ v4Text a b c d := by
  simp [v4Text, not_mem_decimal]

theorem colon_mem_v6Text {segments : List UInt16} (eight : segments.length = 8) : ':' ∈ v6Text segments := by
  unfold v6Text
  split
  · exact List.mem_append_left _ (by decide)
  · dsimp only
    split
    · exact List.mem_append_left _ (List.mem_append_right _ (by decide))
    · match segments, eight with
      | first :: second :: later, _ =>
        rw [segmentsText, List.map_cons, List.map_cons, List.intercalate_cons_cons]
        exact List.mem_append_left _ (List.mem_append_right _ (List.mem_singleton_self _))

/-- The text of an address tells its family. -/
theorem display_v6_ne_v4 {segments : List UInt16} {eight : segments.length = 8} {a b c d : UInt8} :
    (v6 segments eight).display ≠ (v4 a b c d).display := by
  intro same
  have colon : ':' ∈ (v6 segments eight).display := colon_mem_v6Text eight
  rw [same] at colon
  exact colon_not_mem_v4Text a b c d colon

example : (v6 [0x2001, 0xdb8, 0, 0, 1, 0, 0, 1] rfl).display = "2001:db8::1:0:0:1".toList := by decide

end IpAddr
end RsipstackServer
