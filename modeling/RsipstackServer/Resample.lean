import RsipstackServer.Codec

namespace RsipstackServer

def resampleFactor : Nat := 2

/-- One of the slices that `chunks` cuts, which are never empty. -/
structure Chunk where
  samples : List Int16
  nonempty : 0 < samples.length

/-- `samples.chunks(RESAMPLE_FACTOR)`. Only the last chunk can be short. -/
def chunks : List Int16 → List Chunk
  | [] => []
  | [sample] => [⟨[sample], Nat.one_pos⟩]
  | sample :: next :: later => ⟨[sample, next], Nat.two_pos⟩ :: chunks later

/-- `chunk[chunk.len() / 2]`. -/
def Chunk.middle (chunk : Chunk) : Int16 :=
  chunk.samples.get ⟨chunk.samples.length / 2, Nat.div_lt_self chunk.nonempty Nat.one_lt_two⟩

theorem Chunk.middle_single (sample : Int16) : Chunk.middle ⟨[sample], Nat.one_pos⟩ = sample := by
  simp only [middle, List.length_singleton, Nat.reduceDiv, List.get_eq_getElem, List.getElem_cons_zero]

theorem Chunk.middle_pair (sample next : Int16) : Chunk.middle ⟨[sample, next], Nat.two_pos⟩ = next := by
  simp only [middle, List.length_cons, List.length_nil, Nat.reduceAdd, Nat.reduceDiv, List.get_eq_getElem,
    List.getElem_cons_succ, List.getElem_cons_zero]

/-- The loop over a payload that PCMU and PCMA share: every byte is one sample
at 8 kHz, which is written twice. -/
def upsampled (decodeSample : UInt8 → Int16) (payload : List UInt8) : List Int16 :=
  payload.flatMap fun byte => List.replicate resampleFactor (decodeSample byte)

/-- The loop over the samples that PCMU and PCMA share: one sample of every two
becomes a byte. -/
def downsampled (encodeSample : Int16 → UInt8) (samples : List Int16) : List UInt8 :=
  (chunks samples).map fun chunk => encodeSample chunk.middle

/-- The chunk `i` is the samples `2 * i` and, if there is one, `2 * i + 1`. -/
theorem chunks_middle (samples : List Int16) (i : Nat) :
    ((chunks samples)[i]?).map Chunk.middle =
      if 2 * i < samples.length then samples[min (2 * i + 1) (samples.length - 1)]? else none := by
  induction samples using chunks.induct generalizing i with
  | case1 => rfl
  | case2 sample =>
    cases i with
    | zero => exact congrArg some (Chunk.middle_single sample)
    | succ i =>
      rw [if_neg (by simp only [List.length_singleton]; omega)]
      rfl
  | case3 sample next later ih =>
    rw [chunks]
    cases i with
    | zero =>
      have first : min (2 * 0 + 1) ((sample :: next :: later).length - 1) = 1 := by
        simp only [List.length_cons]; omega
      rw [first, if_pos (by simp only [List.length_cons]; omega)]
      exact congrArg some (Chunk.middle_pair sample next)
    | succ i =>
      rw [List.getElem?_cons_succ, ih]
      by_cases inside : 2 * i < later.length
      · have shifted : min (2 * (i + 1) + 1) ((sample :: next :: later).length - 1) =
            min (2 * i + 1) (later.length - 1) + 1 + 1 := by
          simp only [List.length_cons]
          omega
        rw [shifted, if_pos inside, if_pos (by simp only [List.length_cons]; omega)]
        rfl
      · rw [if_neg inside, if_neg (by simp only [List.length_cons]; omega)]

theorem length_chunks (samples : List Int16) : (chunks samples).length = (samples.length + 1) / 2 := by
  induction samples using chunks.induct with
  | case1 => rfl
  | case2 => simp only [chunks, List.length_singleton, Nat.reduceAdd, Nat.reduceDiv]
  | case3 sample next later ih =>
    simp only [chunks, List.length_cons, ih]
    omega

theorem length_downsampled (encodeSample : Int16 → UInt8) (samples : List Int16) :
    (downsampled encodeSample samples).length = (samples.length + 1) / 2 := by
  rw [downsampled, List.length_map, length_chunks]

/-- The byte `i` of a payload is taken from the second sample of its pair, or
from the last one. -/
theorem getElem?_downsampled {encodeSample : Int16 → UInt8} {samples : List Int16} {i : Nat} {byte : UInt8} :
    (downsampled encodeSample samples)[i]? = some byte ↔
      ∃ sample, 2 * i < samples.length ∧ samples[min (2 * i + 1) (samples.length - 1)]? = some sample ∧
        encodeSample sample = byte := by
  have middle := chunks_middle samples i
  rw [downsampled, List.getElem?_map, Option.map_eq_some_iff]
  by_cases inside : 2 * i < samples.length
  · rw [if_pos inside] at middle
    rw [← middle]
    constructor
    · rintro ⟨chunk, there, same⟩
      exact ⟨chunk.middle, inside, by rw [there]; rfl, same⟩
    · rintro ⟨sample, _, there, same⟩
      obtain ⟨chunk, at', rfl⟩ := Option.map_eq_some_iff.mp there
      exact ⟨chunk, at', same⟩
  · rw [if_neg inside, Option.map_eq_none_iff] at middle
    rw [middle]
    constructor
    · rintro ⟨chunk, there, _⟩
      cases there
    · rintro ⟨sample, bound, _⟩
      exact absurd bound inside

/-- From the samples of a payload every byte comes back as that of its own
sample. -/
theorem downsampled_upsampled (encodeSample : Int16 → UInt8) (decodeSample : UInt8 → Int16) (payload : List UInt8) :
    downsampled encodeSample (upsampled decodeSample payload) =
      payload.map fun byte => encodeSample (decodeSample byte) := by
  induction payload with
  | nil => rfl
  | cons byte later ih =>
    change encodeSample (Chunk.middle ⟨[decodeSample byte, decodeSample byte], Nat.two_pos⟩) ::
      downsampled encodeSample (upsampled decodeSample later) = _
    rw [Chunk.middle_pair, ih]
    rfl

theorem length_upsampled (decodeSample : UInt8 → Int16) (payload : List UInt8) :
    (upsampled decodeSample payload).length = 2 * payload.length := by
  induction payload with
  | nil => rfl
  | cons byte later ih =>
    rw [upsampled, List.flatMap_cons, List.length_append, ← upsampled, ih, List.length_replicate, List.length_cons]
    exact Nat.add_comm 2 _

/-- The samples `2 * i` and `2 * i + 1` are those of the byte `i`. -/
theorem getElem?_upsampled (decodeSample : UInt8 → Int16) (payload : List UInt8) (i : Nat) :
    (upsampled decodeSample payload)[2 * i]? = payload[i]?.map decodeSample ∧
      (upsampled decodeSample payload)[2 * i + 1]? = payload[i]?.map decodeSample := by
  induction payload generalizing i with
  | nil => exact ⟨rfl, rfl⟩
  | cons byte later ih =>
    cases i with
    | zero => exact ⟨rfl, rfl⟩
    | succ i => exact ih i

end RsipstackServer
