import RsipstackServer.SdpOffer
import RsipstackServer.Foundation.Tokens

namespace RsipstackServer
open Foundation

/-- The code points with the Unicode property `White_Space`. -/
def whiteSpace : List Nat :=
  [9, 10, 11, 12, 13, 32, 133, 160, 5760, 8192, 8193, 8194, 8195, 8196, 8197, 8198, 8199, 8200, 8201, 8202,
    8232, 8233, 8239, 8287, 12288]

/-- A payload type as the peer writes it: a number up to 255 in decimal digits,
with a plus sign or without. -/
def WritesFormat (token : Text) (pt : UInt8) : Prop :=
  ∃ digits, (token = digits ∨ token = '+' :: digits) ∧ WritesDecimal digits pt.toNat

/-- The payload types of a list of tokens. A token that is no payload type
is passed by. -/
inductive Listed : List Text → List UInt8 → Prop
  | nil : Listed [] []
  | format {token tokens pt formats} : WritesFormat token pt → Listed tokens formats →
      Listed (token :: tokens) (pt :: formats)
  | unreadable {token tokens formats} : (∀ pt, ¬ WritesFormat token pt) → Listed tokens formats →
      Listed (token :: tokens) formats

/-- The tokens of a list of formats. -/
abbrev FormatTokens : Text → List Text → Prop := Tokens fun c => c.toNat ∈ whiteSpace

/-- A list of formats names these payload types, in this order. -/
def ListsFormats (fmt : Text) (formats : List UInt8) : Prop :=
  ∃ tokens, FormatTokens fmt tokens ∧ Listed tokens formats

/-- The first audio description. -/
def FirstAudio (sdp : SessionDescription) (audioMedia : MediaDescription) : Prop :=
  audioMedia.media.media = .audio ∧ ∃ before after, sdp.mediaDescriptions = before ++ audioMedia :: after ∧
    ∀ description ∈ before, description.media.media ≠ .audio

/-- Where the media of a description is to be sent: the first connection of
its own, and that of the session where it has none. -/
inductive ConnectsAt (sdp : SessionDescription) (audioMedia : MediaDescription) : Connection → Prop
  | media {connection others} : audioMedia.connections = connection :: others → ConnectsAt sdp audioMedia connection
  | session {connection} : audioMedia.connections = [] → sdp.connection = some connection →
      ConnectsAt sdp audioMedia connection

theorem isWhitespace_iff (c : Char) : isWhitespace c = true ↔ c.toNat ∈ whiteSpace := by
  simp only [isWhitespace, whiteSpace, List.mem_cons, List.not_mem_nil, or_false, Bool.or_eq_true, Bool.and_eq_true,
    beq_iff_eq, decide_eq_true_eq, UInt32.le_iff_toNat_le, ← UInt32.toNat_inj, Char.toNat_val]
  simp only [UInt32.reduceToNat]
  omega

theorem formatTokens_iff {fmt : Text} {tokens : List Text} : FormatTokens fmt tokens ↔ splitWhitespace fmt = tokens :=
  tokens_iff isWhitespace_iff

theorem parsePayloadType_eq_some {token : Text} {pt : UInt8} :
    parsePayloadType token = some pt ↔ WritesFormat token pt := by
  rw [parsePayloadType, Option.map_eq_some_iff]
  simp only [parseUnsigned_eq_some]
  constructor
  · rintro ⟨n, ⟨digits, sign, writes, fits⟩, rfl⟩
    refine ⟨digits, sign, ?_⟩
    rwa [UInt8.toNat_ofNat_of_lt' (Nat.lt_succ_of_le fits)]
  · rintro ⟨digits, sign, writes⟩
    exact ⟨pt.toNat, ⟨digits, sign, writes, Nat.le_of_lt_succ pt.toNat_lt⟩, UInt8.ofNat_toNat⟩

theorem listed_iff {tokens : List Text} {formats : List UInt8} :
    Listed tokens formats ↔ tokens.filterMap parsePayloadType = formats := by
  constructor
  · intro listed
    induction listed with
    | nil => rfl
    | format writes _ ih => rw [List.filterMap_cons_some (parsePayloadType_eq_some.mpr writes), ih]
    | unreadable none _ ih =>
      rw [List.filterMap_cons_none, ih]
      rw [Option.eq_none_iff_forall_ne_some]
      exact fun pt parsed => none pt (parsePayloadType_eq_some.mp parsed)
  · rintro rfl
    induction tokens with
    | nil => exact .nil
    | cons token later ih =>
      cases parsed : parsePayloadType token with
      | none =>
        rw [List.filterMap_cons_none parsed]
        refine .unreadable (fun pt writes => ?_) ih
        rw [parsePayloadType_eq_some.mpr writes] at parsed
        cases parsed
      | some pt =>
        rw [List.filterMap_cons_some parsed]
        exact .format (parsePayloadType_eq_some.mp parsed) ih

theorem listsFormats_iff {audioMedia : MediaDescription} {formats : List UInt8} :
    ListsFormats audioMedia.media.fmt formats ↔ audioMedia.payloadTypes = formats := by
  simp only [ListsFormats, formatTokens_iff, listed_iff, exists_eq_left']
  rfl

theorem firstAudio_iff {sdp : SessionDescription} {audioMedia : MediaDescription} :
    FirstAudio sdp audioMedia ↔ sdp.audioMedia = some audioMedia := by
  rw [SessionDescription.audioMedia, List.find?_eq_some_iff_append, FirstAudio]
  simp

/-- The connection of the audio stream, or else that of the session. -/
def SessionDescription.audioConnection (sdp : SessionDescription) (audioMedia : MediaDescription) :
    Option Connection :=
  audioMedia.connections.head? <|> sdp.connection

theorem connectsAt_iff {sdp : SessionDescription} {audioMedia : MediaDescription} {connection : Connection} :
    ConnectsAt sdp audioMedia connection ↔ sdp.audioConnection audioMedia = some connection := by
  unfold SessionDescription.audioConnection
  constructor
  · intro connects
    cases connects with
    | media own =>
      rw [own]
      rfl
    | session none whole =>
      rw [none, whole]
      rfl
  · intro found
    cases own : audioMedia.connections with
    | nil =>
      rw [own] at found
      exact .session own found
    | cons first others =>
      rw [own] at found
      cases Option.some.inj found
      exact .media own

end RsipstackServer
