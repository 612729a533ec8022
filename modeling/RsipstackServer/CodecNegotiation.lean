import RsipstackServer.ListedFormats
import RsipstackServer.SdpReader

namespace RsipstackServer
open Foundation

def CodecKind.enabled (features : Features) : CodecKind → Bool
  | .opus => features.opus
  | .g722 => features.g722
  | .l16 | .pcmu | .pcma => true

/-- A name of the codec, in any case, where the codec is built in. -/
def NamesKind (features : Features) (name : Text) (kind : CodecKind) : Prop :=
  kind.enabled features = true ∧ eqIgnoreAsciiCase name kind.name = true

/-- The first rtpmap line for a payload type. -/
def FirstRtpmap (attributes : List Attribute) (pt : UInt8) (rtpmap : Rtpmap) : Prop :=
  ∃ before after, attributes = before ++ .rtpmap rtpmap :: after ∧ rtpmap.payloadType = pt.toUInt32 ∧
    ∀ other, Attribute.rtpmap other ∈ before → other.payloadType ≠ pt.toUInt32

/-- The format `pt` is supported as a codec. -/
inductive SupportedAs (features : Features) (attributes : List Attribute) : UInt8 → CodecKind → Prop
  | pcmu : SupportedAs features attributes 0 .pcmu
  | pcma : SupportedAs features attributes 8 .pcma
  | g722 : features.g722 = true → SupportedAs features attributes 9 .g722
  | dynamic {pt rtpmap kind} : pt ≠ 0 ∧ pt ≠ 8 ∧ pt ≠ 9 → FirstRtpmap attributes pt rtpmap →
      NamesKind features rtpmap.encodingName kind → (kind = .l16 → rtpmap.clockRate = 16000) →
      SupportedAs features attributes pt kind

theorem CodecKind.rank_injective {a b : CodecKind} (same : a.rank = b.rank) : a = b := by
  cases a <;> cases b <;> first | rfl | cases same

theorem eqIgnoreAsciiCase_iff {a b : Text} :
    eqIgnoreAsciiCase a b = true ↔ a.map Char.toLower = b.map Char.toLower := by
  unfold eqIgnoreAsciiCase
  exact beq_iff_eq

theorem eqIgnoreAsciiCase_congr {a b c : Text} (same : eqIgnoreAsciiCase a b = true) :
    eqIgnoreAsciiCase a c = eqIgnoreAsciiCase b c := by
  unfold eqIgnoreAsciiCase
  rw [eqIgnoreAsciiCase_iff.mp same]

theorem eqIgnoreAsciiCase_trans {a b c : Text} (first : eqIgnoreAsciiCase a b = true)
    (second : eqIgnoreAsciiCase b c = true) :
    eqIgnoreAsciiCase a c = true := (eqIgnoreAsciiCase_congr first).trans second

/-- `from_name` compares with the same names that `name` gives out. -/
theorem fromName_name {features : Features} {kind : CodecKind} (enabled : kind.enabled features = true) :
    CodecKind.fromName features kind.name = some kind := by
  cases kind with
  | l16 | pcmu | pcma => cases features with | mk opus g722 => cases opus <;> cases g722 <;> rfl
  | opus | g722 =>
    cases features with
    | mk opus g722 => cases opus <;> cases g722 <;> first | rfl | cases enabled

theorem fromName_congr {features : Features} {a b : Text} (same : eqIgnoreAsciiCase a b = true) :
    CodecKind.fromName features a = CodecKind.fromName features b := by
  simp only [CodecKind.fromName, eqIgnoreAsciiCase_congr same]

theorem fromName_eq_some {features : Features} {name : Text} {kind : CodecKind} :
    CodecKind.fromName features name = some kind ↔ NamesKind features name kind := by
  constructor
  · intro found
    unfold CodecKind.fromName at found
    split at found
    · rename_i same
      cases Option.some.inj found
      exact ⟨rfl, eqIgnoreAsciiCase_trans same (by decide)⟩
    split at found
    · rename_i same
      cases Option.some.inj found
      exact ⟨rfl, eqIgnoreAsciiCase_trans same (by decide)⟩
    split at found
    · rename_i same
      cases Option.some.inj found
      exact (Bool.and_eq_true_iff.mp same).imp_right fun same => eqIgnoreAsciiCase_trans same (by decide)
    split at found
    · rename_i same
      cases Option.some.inj found
      exact (Bool.and_eq_true_iff.mp same).imp_right fun same => eqIgnoreAsciiCase_trans same (by decide)
    split at found
    · rename_i same
      cases Option.some.inj found
      exact ⟨rfl, eqIgnoreAsciiCase_trans same (by decide)⟩
    · cases found
  · rintro ⟨enabled, same⟩
    rw [fromName_congr same, fromName_name enabled]

/-- The name made up for a payload type without a usable rtpmap line. -/
theorem fromName_synthetic (features : Features) (pt : UInt8) :
    CodecKind.fromName features ("PT".toList ++ decimal pt.toNat) = none := by
  cases found : CodecKind.fromName features ("PT".toList ++ decimal pt.toNat) with
  | none => rfl
  | some kind =>
    obtain ⟨_, same⟩ := fromName_eq_some.mp found
    have second := congrArg (fun text => text[1]?) (eqIgnoreAsciiCase_iff.mp same)
    rw [show "PT".toList = ['P', 'T'] from rfl] at second
    simp only [List.map_append, List.map_cons, List.map_nil, List.cons_append, List.getElem?_cons_succ,
      List.getElem?_cons_zero] at second
    cases kind <;> exact absurd second (by decide)

theorem not_firstRtpmap_nil {pt : UInt8} {rtpmap : Rtpmap} : ¬ FirstRtpmap [] pt rtpmap := by
  rintro ⟨before, after, whole, _⟩
  cases before <;> cases whole

theorem firstRtpmap_other {text : Text} {later : List Attribute} {pt : UInt8} {rtpmap : Rtpmap} :
    FirstRtpmap (.other text :: later) pt rtpmap ↔ FirstRtpmap later pt rtpmap := by
  constructor
  · rintro ⟨before, after, whole, own, none⟩
    cases before with
    | nil => cases whole
    | cons head tail =>
      obtain ⟨_, rest⟩ := List.cons_eq_cons.mp whole
      exact ⟨tail, after, rest, own, fun other member => none other (List.mem_cons_of_mem head member)⟩
  · rintro ⟨before, after, whole, own, none⟩
    refine ⟨.other text :: before, after, by rw [whole, List.cons_append], own, ?_⟩
    intro other member
    rcases List.mem_cons.mp member with same | old
    · cases same
    · exact none other old

theorem firstRtpmap_rtpmap {first rtpmap : Rtpmap} {later : List Attribute} {pt : UInt8} :
    FirstRtpmap (.rtpmap first :: later) pt rtpmap ↔
      if first.payloadType = pt.toUInt32 then rtpmap = first else FirstRtpmap later pt rtpmap := by
  split
  · rename_i own
    constructor
    · rintro ⟨before, after, whole, _, none⟩
      cases before with
      | nil => exact (Attribute.rtpmap.inj (List.cons_eq_cons.mp whole).1).symm
      | cons head tail =>
        obtain ⟨rfl, _⟩ := List.cons_eq_cons.mp whole
        exact absurd own (none first List.mem_cons_self)
    · rintro rfl
      exact ⟨[], later, rfl, own, by simp⟩
  · rename_i foreign
    constructor
    · rintro ⟨before, after, whole, own, none⟩
      cases before with
      | nil =>
        cases (List.cons_eq_cons.mp whole).1
        exact absurd own foreign
      | cons head tail =>
        obtain ⟨_, rest⟩ := List.cons_eq_cons.mp whole
        exact ⟨tail, after, rest, own, fun other member => none other (List.mem_cons_of_mem head member)⟩
    · rintro ⟨before, after, whole, own, none⟩
      refine ⟨.rtpmap first :: before, after, by rw [whole, List.cons_append], own, ?_⟩
      intro other member
      rcases List.mem_cons.mp member with same | old
      · cases same
        exact foreign
      · exact none other old

theorem FirstRtpmap.unique {attributes : List Attribute} {pt : UInt8} {rtpmap other : Rtpmap}
    (first : FirstRtpmap attributes pt rtpmap) (second : FirstRtpmap attributes pt other) : rtpmap = other := by
  induction attributes with
  | nil => exact absurd first not_firstRtpmap_nil
  | cons head later ih =>
    cases head with
    | other text => exact ih (firstRtpmap_other.mp first) (firstRtpmap_other.mp second)
    | rtpmap own =>
      rw [firstRtpmap_rtpmap] at first second
      split at first
      · rename_i here
        rw [if_pos here] at second
        exact first.trans second.symm
      · rename_i foreign
        rw [if_neg foreign] at second
        exact ih first second

/-- The search finds the name of the first rtpmap line, unless that line is
one for L16 at a rate other than 16000. -/
theorem foundCodec_eq_some {pt : UInt8} {attributes : List Attribute} {name : Text} :
    foundCodec pt attributes = some name ↔ ∃ rtpmap, FirstRtpmap attributes pt rtpmap ∧ rtpmap.encodingName = name ∧
      (eqIgnoreAsciiCase name "l16".toList = true → rtpmap.clockRate = 16000) := by
  induction attributes with
  | nil => simp [foundCodec, not_firstRtpmap_nil]
  | cons head later ih =>
    cases head with
    | other text => simp only [foundCodec, ih, firstRtpmap_other]
    | rtpmap first =>
      simp only [foundCodec, firstRtpmap_rtpmap]
      split
      · simp only [exists_eq_left]
        split
        · rename_i wrongRate
          rw [Bool.and_eq_true, bne_iff_ne] at wrongRate
          refine iff_of_false nofun ?_
          rintro ⟨rfl, rate⟩
          exact wrongRate.2 (rate wrongRate.1)
        · rename_i usable
          rw [Bool.and_eq_true, bne_iff_ne, not_and_not_right] at usable
          constructor
          · intro same
            cases Option.some.inj same
            exact ⟨rfl, usable⟩
          · rintro ⟨rfl, _⟩
            rfl
      · exact ih

/-- Only the name of L16 itself stands for L16. -/
theorem NamesKind.l16_iff {features : Features} {name : Text} {kind : CodecKind}
    (names : NamesKind features name kind) :
    eqIgnoreAsciiCase name "l16".toList = true ↔ kind = .l16 := by
  constructor
  · intro l16
    have other : NamesKind features name .l16 := ⟨rfl, eqIgnoreAsciiCase_trans l16 (by decide)⟩
    exact Option.some.inj ((fromName_eq_some.mpr names).symm.trans (fromName_eq_some.mpr other))
  · rintro rfl
    exact eqIgnoreAsciiCase_trans names.2 (by decide)

theorem codecName_dynamic {attributes : List Attribute} {pt : UInt8} (dynamic : pt ≠ 0 ∧ pt ≠ 8 ∧ pt ≠ 9) :
    codecName attributes pt = (foundCodec pt attributes).getD ("PT".toList ++ decimal pt.toNat) := by
  rw [codecName, if_neg dynamic.1, if_neg dynamic.2.1, if_neg dynamic.2.2]

theorem fromName_codecName_dynamic {features : Features} {attributes : List Attribute} {pt : UInt8} {kind : CodecKind}
    (dynamic : pt ≠ 0 ∧ pt ≠ 8 ∧ pt ≠ 9) : CodecKind.fromName features (codecName attributes pt) = some kind ↔
      ∃ rtpmap, FirstRtpmap attributes pt rtpmap ∧ NamesKind features rtpmap.encodingName kind ∧
        (kind = .l16 → rtpmap.clockRate = 16000) := by
  rw [codecName_dynamic dynamic]
  constructor
  · intro named
    cases found : foundCodec pt attributes with
    | none =>
      rw [found, Option.getD_none, fromName_synthetic] at named
      cases named
    | some name =>
      rw [found, Option.getD_some, fromName_eq_some] at named
      obtain ⟨rtpmap, first, rfl, rate⟩ := foundCodec_eq_some.mp found
      exact ⟨rtpmap, first, named, fun isL16 => rate (named.l16_iff.mpr isL16)⟩
  · rintro ⟨rtpmap, first, named, rate⟩
    have found : foundCodec pt attributes = some rtpmap.encodingName :=
      foundCodec_eq_some.mpr ⟨rtpmap, first, rfl, fun isL16 => rate (named.l16_iff.mp isL16)⟩
    rw [found, Option.getD_some, fromName_eq_some]
    exact named

/-- The loop over the formats keeps exactly the supported ones. -/
theorem fromName_codecName {features : Features} {attributes : List Attribute} {pt : UInt8} {kind : CodecKind} :
    CodecKind.fromName features (codecName attributes pt) = some kind ↔ SupportedAs features attributes pt kind := by
  by_cases dynamic : pt ≠ 0 ∧ pt ≠ 8 ∧ pt ≠ 9
  · rw [fromName_codecName_dynamic dynamic]
    constructor
    · rintro ⟨rtpmap, first, named, rate⟩
      exact .dynamic dynamic first named rate
    · intro supported
      cases supported with
      | pcmu => exact absurd rfl dynamic.1
      | pcma => exact absurd rfl dynamic.2.1
      | g722 => exact absurd rfl dynamic.2.2
      | dynamic _ first named rate => exact ⟨_, first, named, rate⟩
  · have static : pt = 0 ∨ pt = 8 ∨ pt = 9 := by
      by_contra none
      exact dynamic ⟨fun zero => none (Or.inl zero), fun eight => none (Or.inr (Or.inl eight)),
        fun nine => none (Or.inr (Or.inr nine))⟩
    rcases static with rfl | rfl | rfl
    · have name : codecName attributes 0 = CodecKind.pcmu.name := rfl
      rw [name, fromName_name rfl, Option.some_inj]
      constructor
      · rintro rfl
        exact .pcmu
      · intro supported
        cases supported with
        | pcmu => rfl
        | dynamic others => exact absurd rfl others.1
    · have name : codecName attributes 8 = CodecKind.pcma.name := rfl
      rw [name, fromName_name rfl, Option.some_inj]
      constructor
      · rintro rfl
        exact .pcma
      · intro supported
        cases supported with
        | pcma => rfl
        | dynamic others => exact absurd rfl others.2.1
    · have name : codecName attributes 9 = CodecKind.g722.name := rfl
      constructor
      · intro named
        rw [name] at named
        obtain ⟨enabled, same⟩ := fromName_eq_some.mp named
        cases kind with
        | g722 => exact .g722 enabled
        | l16 | opus | pcmu | pcma => exact absurd same (by decide)
      · intro supported
        cases supported with
        | g722 enabled =>
          rw [name]
          exact fromName_name enabled
        | dynamic others => exact absurd rfl others.2.2

theorem SupportedAs.unique {features : Features} {attributes : List Attribute} {pt : UInt8} {kind other : CodecKind}
    (first : SupportedAs features attributes pt kind) (second : SupportedAs features attributes pt other) :
    kind = other :=
  Option.some.inj ((fromName_codecName.mpr first).symm.trans (fromName_codecName.mpr second))

theorem offeredCodec_eq_some {features : Features} {attributes : List Attribute} {pt : UInt8} {codec : OfferedCodec} :
    offeredCodec features attributes pt = some codec ↔
      codec.payloadType = pt ∧ SupportedAs features attributes pt codec.kind := by
  rw [offeredCodec, Option.map_eq_some_iff, ← fromName_codecName]
  constructor
  · rintro ⟨kind, named, rfl⟩
    exact ⟨rfl, named⟩
  · rintro ⟨rfl, named⟩
    exact ⟨codec.kind, named, rfl⟩

theorem offeredCodec_eq_none {features : Features} {attributes : List Attribute} {pt : UInt8} :
    offeredCodec features attributes pt = none ↔ ∀ kind, ¬ SupportedAs features attributes pt kind := by
  rw [offeredCodec, Option.map_eq_none_iff, Option.eq_none_iff_forall_ne_some]
  exact forall_congr' fun kind => not_congr fromName_codecName

instance (features : Features) (attributes : List Attribute) (pt : UInt8) :
    Decidable (∃ kind, SupportedAs features attributes pt kind) :=
  decidable_of_iff ((offeredCodec features attributes pt).isSome = true) (by
    rw [← Option.ne_none_iff_isSome, ne_eq, offeredCodec_eq_none, not_forall]
    exact exists_congr fun kind => not_not)

/-- The most preferred supported codec of a list of formats, under the first
format that is supported as it. -/
def Best (features : Features) (attributes : List Attribute) (formats : List UInt8) (codec : OfferedCodec) : Prop :=
  (∃ before after, formats = before ++ codec.payloadType :: after ∧
      SupportedAs features attributes codec.payloadType codec.kind ∧
      ∀ pt ∈ before, ¬ SupportedAs features attributes pt codec.kind) ∧
    ∀ pt ∈ formats, ∀ kind, SupportedAs features attributes pt kind → codec.kind.rank ≤ kind.rank

/-- The selection is the choice by preference among the formats themselves. -/
theorem selectPreferred_eq (features : Features) (attributes : List Attribute) (formats : List UInt8) :
    selectPreferred (formats.filterMap (offeredCodec features attributes)) =
      preferred (offeredCodec features attributes) (fun codec => codec.kind.rank) formats := rfl

theorem leads_iff {features : Features} {attributes : List Attribute} {before after : List UInt8} {pt : UInt8}
    {codec : OfferedCodec} :
    Leads (offeredCodec features attributes) (fun codec => codec.kind.rank) before pt after codec ↔
      codec.payloadType = pt ∧ SupportedAs features attributes pt codec.kind ∧
        (∀ other ∈ before, ¬ SupportedAs features attributes other codec.kind) ∧
        ∀ other ∈ before ++ pt :: after, ∀ kind, SupportedAs features attributes other kind →
          codec.kind.rank ≤ kind.rank := by
  constructor
  · rintro ⟨offers, ahead, behind⟩
    obtain ⟨place, supported⟩ := offeredCodec_eq_some.mp offers
    refine ⟨place, supported, ?_, ?_⟩
    · intro other member same
      exact Nat.lt_irrefl _ (ahead other member ⟨other, codec.kind⟩ (offeredCodec_eq_some.mpr ⟨rfl, same⟩))
    · intro other member kind found
      have candidate : offeredCodec features attributes other = some ⟨other, kind⟩ :=
        offeredCodec_eq_some.mpr ⟨rfl, found⟩
      rcases List.mem_append.mp member with front | rest
      · exact (ahead other front _ candidate).le
      · rcases List.mem_cons.mp rest with rfl | back
        · rw [offers] at candidate
          cases candidate
          exact Nat.le_refl _
        · exact behind other back _ candidate
  · rintro ⟨place, supported, first, least⟩
    refine ⟨offeredCodec_eq_some.mpr ⟨place, supported⟩, ?_, ?_⟩
    · intro other member candidate offers
      obtain ⟨_, found⟩ := offeredCodec_eq_some.mp offers
      refine (least other (List.mem_append_left _ member) _ found).lt_of_ne ?_
      intro same
      rw [← CodecKind.rank_injective same] at found
      exact first other member found
    · intro other member candidate offers
      exact least other (by simp [member]) _ (offeredCodec_eq_some.mp offers).2

theorem selectPreferred_eq_some {features : Features} {attributes : List Attribute} {formats : List UInt8}
    {codec : OfferedCodec} : selectPreferred (formats.filterMap (offeredCodec features attributes)) = some codec ↔
      Best features attributes formats codec := by
  rw [selectPreferred_eq, preferred_eq_some_iff]
  simp only [leads_iff]
  constructor
  · rintro ⟨before, pt, after, rfl, rfl, supported, first, least⟩
    exact ⟨⟨before, after, rfl, supported, first⟩, least⟩
  · rintro ⟨⟨before, after, rfl, supported, first⟩, least⟩
    exact ⟨before, codec.payloadType, after, rfl, rfl, supported, first, least⟩

theorem selectPreferred_eq_none {features : Features} {attributes : List Attribute} {formats : List UInt8} :
    selectPreferred (formats.filterMap (offeredCodec features attributes)) = none ↔
      ∀ pt ∈ formats, ∀ kind, ¬ SupportedAs features attributes pt kind := by
  rw [selectPreferred_eq, preferred_eq_none_iff]
  exact forall₂_congr fun pt _ => offeredCodec_eq_none

/-- The codec selected from the formats of an audio stream. -/
def MediaDescription.selected (features : Features) (audioMedia : MediaDescription) : Option OfferedCodec :=
  selectPreferred (audioMedia.payloadTypes.filterMap (offeredCodec features audioMedia.attributes))

/-- The offer, once its audio stream is found. -/
def offerWith (connection : Option Connection) (port : UInt16) (selected : Option OfferedCodec) :
    Except SdpParseError SdpOffer :=
  match connection, selected with
  | none, _ => .error .missingConnectionAddress
  | some _, none => .error .noSupportedCodec
  | some connection, some codec => .ok ⟨connection.connectionAddress, port, codec.payloadType, codec.kind⟩

theorem offerOf_of_audio (features : Features) {sdp : SessionDescription} {audioMedia : MediaDescription}
    (audio : sdp.audioMedia = some audioMedia) : offerOf features sdp =
      offerWith (sdp.audioConnection audioMedia) audioMedia.media.port (audioMedia.selected features) := by
  unfold offerOf SessionDescription.audioConnection MediaDescription.selected
  rw [audio]
  simp only [Option.elim_some, pure_bind]
  cases audioMedia.connections.head? <|> sdp.connection with
  | none => rfl
  | some connection =>
    simp only [Option.elim_some, pure_bind]
    cases selectPreferred (audioMedia.payloadTypes.filterMap (offeredCodec features audioMedia.attributes)) with
    | none => rfl
    | some codec => rfl

theorem offerOf_of_silent (features : Features) {sdp : SessionDescription} (silent : sdp.audioMedia = none) :
    offerOf features sdp = .error .noAudioMedia := by
  unfold offerOf
  rw [silent]
  rfl

theorem offerOf_eq_ok {features : Features} {sdp : SessionDescription} {offer : SdpOffer} :
    offerOf features sdp = .ok offer ↔
    ∃ audioMedia connection, sdp.audioMedia = some audioMedia ∧ sdp.audioConnection audioMedia = some connection ∧
      offer.peerAddr = connection.connectionAddress ∧ offer.peerPort = audioMedia.media.port ∧
      Best features audioMedia.attributes audioMedia.payloadTypes ⟨offer.payloadType, offer.codecKind⟩ := by
  simp only [← selectPreferred_eq_some]
  constructor
  · intro built
    cases audio : sdp.audioMedia with
    | none =>
      rw [offerOf_of_silent features audio] at built
      cases built
    | some audioMedia =>
      rw [offerOf_of_audio features audio] at built
      unfold offerWith at built
      split at built
      · cases built
      · cases built
      · rename_i connection codec source chosen
        cases built
        exact ⟨audioMedia, connection, rfl, source, rfl, rfl, chosen⟩
  · rintro ⟨audioMedia, connection, audio, source, address, port, chosen⟩
    rw [offerOf_of_audio features audio, source, MediaDescription.selected, chosen, offerWith, ← address, ← port]

theorem offerOf_eq_noSupportedCodec {features : Features} {sdp : SessionDescription} :
    offerOf features sdp = .error .noSupportedCodec ↔
      ∃ audioMedia connection, sdp.audioMedia = some audioMedia ∧ sdp.audioConnection audioMedia = some connection ∧
        ∀ pt ∈ audioMedia.payloadTypes, ∀ kind, ¬ SupportedAs features audioMedia.attributes pt kind := by
  simp only [← selectPreferred_eq_none]
  constructor
  · intro refused
    cases audio : sdp.audioMedia with
    | none =>
      rw [offerOf_of_silent features audio] at refused
      cases refused
    | some audioMedia =>
      rw [offerOf_of_audio features audio] at refused
      unfold offerWith at refused
      split at refused
      · cases refused
      · rename_i connection source chosen
        exact ⟨audioMedia, connection, rfl, source, chosen⟩
      · cases refused
  · rintro ⟨audioMedia, connection, audio, source, chosen⟩
    rw [offerOf_of_audio features audio, source, MediaDescription.selected, chosen, offerWith]

theorem parseSdpOffer_of_parsed (features : Features) {sdpRs : SdpRs} {sdpBody : Text} {sdp : SessionDescription}
    (parsed : sdpRs sdpBody = .ok sdp) : parseSdpOffer features sdpRs sdpBody = offerOf features sdp := by
  unfold parseSdpOffer
  rw [parsed]
  rfl

theorem parseSdpOffer_eq_ok {features : Features} {sdpRs : SdpRs} {sdpBody : Text} {offer : SdpOffer} :
    parseSdpOffer features sdpRs sdpBody = .ok offer ↔ ∃ sdp, sdpRs sdpBody = .ok sdp ∧
      offerOf features sdp = .ok offer := by
  constructor
  · intro accepted
    cases parsed : sdpRs sdpBody with
    | error e =>
      unfold parseSdpOffer at accepted
      rw [parsed] at accepted
      cases accepted
    | ok sdp => exact ⟨sdp, rfl, (parseSdpOffer_of_parsed features parsed).symm.trans accepted⟩
  · rintro ⟨sdp, parsed, built⟩
    exact (parseSdpOffer_of_parsed features parsed).trans built

/-- One token of a list of formats is supported. -/
def SupportedFormat (features : Features) (attributes : List Attribute) (token : Text) : Prop :=
  ∃ pt, WritesFormat token pt ∧ ∃ kind, SupportedAs features attributes pt kind

theorem supportedFormat_iff {features : Features} {attributes : List Attribute} {token : Text} :
    ((parsePayloadType token).bind (offeredCodec features attributes)).isSome = true ↔
      SupportedFormat features attributes token := by
  rw [SupportedFormat, Option.isSome_iff_exists]
  constructor
  · rintro ⟨codec, found⟩
    obtain ⟨pt, parsed, offers⟩ := Option.bind_eq_some_iff.mp found
    exact ⟨pt, parsePayloadType_eq_some.mp parsed, codec.kind, (offeredCodec_eq_some.mp offers).2⟩
  · rintro ⟨pt, writes, kind, supported⟩
    have parsed := parsePayloadType_eq_some.mpr writes
    exact ⟨⟨pt, kind⟩, Option.bind_eq_some_iff.mpr ⟨pt, parsed, offeredCodec_eq_some.mpr ⟨rfl, supported⟩⟩⟩

instance (features : Features) (attributes : List Attribute) (token : Text) :
    Decidable (SupportedFormat features attributes token) := decidable_of_iff _ supportedFormat_iff

/-- Two descriptions that differ, as far as negotiation reads them, only in
the list of formats of their audio streams. -/
structure ChangesFormats (sdp other : SessionDescription) (audioMedia changed : MediaDescription) : Prop where
  before : FirstAudio sdp audioMedia
  after : FirstAudio other changed
  connection : other.connection = sdp.connection
  connections : changed.connections = audioMedia.connections
  attributes : changed.attributes = audioMedia.attributes
  port : changed.media.port = audioMedia.media.port

/-- Changes of the list of formats show only through the selected codec. -/
theorem ChangesFormats.offerOf_eq {features : Features} {sdp other : SessionDescription}
    {audioMedia changed : MediaDescription} (changes : ChangesFormats sdp other audioMedia changed) :
    offerOf features other =
      offerWith (sdp.audioConnection audioMedia) audioMedia.media.port (changed.selected features) := by
  rw [offerOf_of_audio features (firstAudio_iff.mp changes.after), SessionDescription.audioConnection,
    changes.connections, changes.connection, changes.port]
  rfl

theorem MediaDescription.selected_eq (features : Features) (audioMedia : MediaDescription) {tokens : List Text}
    (listed : FormatTokens audioMedia.media.fmt tokens) : audioMedia.selected features =
      preferred (fun token => (parsePayloadType token).bind (offeredCodec features audioMedia.attributes))
        (fun codec => codec.kind.rank) tokens := by
  rw [MediaDescription.selected, MediaDescription.payloadTypes, List.filterMap_filterMap, formatTokens_iff.mp listed]
  rfl

theorem offerWith_codecKind {connection : Option Connection} {port : UInt16} {selected other : Option OfferedCodec}
    (same : selected.map (fun codec => codec.kind.rank) = other.map fun codec => codec.kind.rank) :
    (offerWith connection port selected).map SdpOffer.codecKind =
      (offerWith connection port other).map SdpOffer.codecKind := by
  cases connection with
  | none => rfl
  | some connection =>
    cases selected with
    | none =>
      cases other with
      | none => rfl
      | some codec => cases same
    | some codec =>
      cases other with
      | none => cases same
      | some second => exact congrArg Except.ok (CodecKind.rank_injective (Option.some.inj same))

/-- What negotiation does with every body that is read as a description. -/
structure NegotiatesBest (features : Features) (sdpRs : SdpRs) (sdpBody : Text) (sdp : SessionDescription) :
    Prop where
  accepts : ∀ offer, parseSdpOffer features sdpRs sdpBody = .ok offer ↔
    ∃ audioMedia connection formats, FirstAudio sdp audioMedia ∧ ConnectsAt sdp audioMedia connection ∧
      ListsFormats audioMedia.media.fmt formats ∧
      offer.peerAddr = connection.connectionAddress ∧ offer.peerPort = audioMedia.media.port ∧
      Best features audioMedia.attributes formats ⟨offer.payloadType, offer.codecKind⟩
  refuses : parseSdpOffer features sdpRs sdpBody = .error .noSupportedCodec ↔
    ∃ audioMedia connection formats, FirstAudio sdp audioMedia ∧ ConnectsAt sdp audioMedia connection ∧
      ListsFormats audioMedia.media.fmt formats ∧
      ∀ pt ∈ formats, ∀ kind, ¬ SupportedAs features audioMedia.attributes pt kind
  reordered : ∀ otherBody other audioMedia changed tokens others, sdpRs otherBody = .ok other →
    ChangesFormats sdp other audioMedia changed →
    FormatTokens audioMedia.media.fmt tokens → FormatTokens changed.media.fmt others → others.Perm tokens →
      (parseSdpOffer features sdpRs otherBody).map SdpOffer.codecKind =
        (parseSdpOffer features sdpRs sdpBody).map SdpOffer.codecKind
  unsupported : ∀ otherBody other audioMedia changed tokens others, sdpRs otherBody = .ok other →
    ChangesFormats sdp other audioMedia changed →
    FormatTokens audioMedia.media.fmt tokens → FormatTokens changed.media.fmt others →
    others.filter (fun token => SupportedFormat features audioMedia.attributes token) =
        tokens.filter (fun token => SupportedFormat features audioMedia.attributes token) →
      parseSdpOffer features sdpRs otherBody = parseSdpOffer features sdpRs sdpBody

theorem negotiatesBest (features : Features) {sdpRs : SdpRs} {sdpBody : Text} {sdp : SessionDescription}
    (parsed : sdpRs sdpBody = .ok sdp) : NegotiatesBest features sdpRs sdpBody sdp where
  accepts := by
    intro offer
    simp only [parseSdpOffer_of_parsed features parsed, offerOf_eq_ok, firstAudio_iff, connectsAt_iff,
      listsFormats_iff, exists_and_left, exists_eq_left']
  refuses := by
    simp only [parseSdpOffer_of_parsed features parsed, offerOf_eq_noSupportedCodec, firstAudio_iff, connectsAt_iff,
      listsFormats_iff, exists_and_left, exists_eq_left']
  reordered := by
    intro otherBody other audioMedia changed tokens others read changes listed relisted perm
    rw [parseSdpOffer_of_parsed features parsed, parseSdpOffer_of_parsed features read, changes.offerOf_eq,
      offerOf_of_audio features (firstAudio_iff.mp changes.before)]
    refine offerWith_codecKind ?_
    rw [MediaDescription.selected_eq features _ listed, MediaDescription.selected_eq features _ relisted,
      changes.attributes]
    exact preferred_perm perm
  unsupported := by
    intro otherBody other audioMedia changed tokens others read changes listed relisted same
    rw [parseSdpOffer_of_parsed features parsed, parseSdpOffer_of_parsed features read, changes.offerOf_eq,
      offerOf_of_audio features (firstAudio_iff.mp changes.before), MediaDescription.selected_eq features _ listed,
      MediaDescription.selected_eq features _ relisted, changes.attributes]
    refine congrArg _ (preferred_congr ?_)
    simp only [← supportedFormat_iff, Bool.decide_eq_true] at same
    exact same

/-- An offer with a format that is no number, an event format, L16 under two
rates and both kinds of PCM. -/
def mixedOffer : Text :=
  offerText "x 101 8 96 +97 0".toList
    ("a=rtpmap:101 telephone-event/8000\r\na=rtpmap:96 L16/8000\r\na=rtpmap:97 l16/16000\r\n" ++
      "a=rtpmap:97 opus/48000/2\r\n").toList

def mixedDescription : SessionDescription :=
  offeredDescription "x 101 8 96 +97 0".toList
    [.rtpmap ⟨101, "telephone-event".toList, 8000, none⟩, .rtpmap ⟨96, "L16".toList, 8000, none⟩,
      .rtpmap ⟨97, "l16".toList, 16000, none⟩, .rtpmap ⟨97, "opus".toList, 48000, some 2⟩]

/-- Its first rtpmap line makes the format 97 the best one. -/
theorem negotiatesBest_mixedOffer : NegotiatesBest ⟨true, true⟩ strictSdpRs mixedOffer mixedDescription ∧
    parseSdpOffer ⟨true, true⟩ strictSdpRs mixedOffer = .ok ⟨.v4 10 0 0 50, 4000, 97, .l16⟩ :=
  ⟨negotiatesBest ⟨true, true⟩ (by decide +kernel), by decide +kernel⟩

/-- Every listed format that is supported but `bad` is outdone by one that is
supported and not bad: one for a more preferred codec, or one for the same
codec that the peer lists earlier. -/
def FormatsOutdone (features : Features) (audioMedia : MediaDescription) (bad : UInt8 → CodecKind → Prop) : Prop :=
  ∀ before pt after, audioMedia.payloadTypes = before ++ pt :: after →
    ∀ kind, SupportedAs features audioMedia.attributes pt kind → bad pt kind →
      ∃ other ∈ audioMedia.payloadTypes, ∃ better, SupportedAs features audioMedia.attributes other better ∧
        ¬ bad other better ∧ (better.rank < kind.rank ∨ better = kind ∧ other ∈ before)

theorem outdone_iff {features : Features} {attributes : List Attribute} {bad : UInt8 → CodecKind → Prop}
    {before formats : List UInt8} {candidate : OfferedCodec} :
    Outdone (offeredCodec features attributes) (fun codec => codec.kind.rank)
      (fun codec => bad codec.payloadType codec.kind)
        before candidate formats ↔
      ∃ other ∈ formats, ∃ better, SupportedAs features attributes other better ∧ ¬ bad other better ∧
        (better.rank < candidate.kind.rank ∨ better = candidate.kind ∧ other ∈ before) := by
  constructor
  · rintro ⟨other, member, better, offers, good, order⟩
    obtain ⟨rfl, supported⟩ := offeredCodec_eq_some.mp offers
    exact ⟨_, member, better.kind, supported, good,
      order.imp_right fun same => ⟨CodecKind.rank_injective same.1, same.2⟩⟩
  · rintro ⟨other, member, better, supported, good, order⟩
    exact ⟨other, member, ⟨other, better⟩, offeredCodec_eq_some.mpr ⟨rfl, supported⟩, good,
      order.imp_right fun same => ⟨congrArg CodecKind.rank same.1, same.2⟩⟩

/-- The selected codec is not a bad one exactly if all bad ones are outdone. -/
theorem selected_not_bad_iff {features : Features} {audioMedia : MediaDescription} {codec : OfferedCodec}
    (bad : UInt8 → CodecKind → Prop) (chosen : audioMedia.selected features = some codec) :
    ¬ bad codec.payloadType codec.kind ↔ FormatsOutdone features audioMedia bad := by
  rw [preferred_not_bad_iff (fun codec => bad codec.payloadType codec.kind) chosen]
  simp only [outdone_iff]
  constructor
  · intro outdone before pt after whole kind supported isBad
    exact outdone before pt after whole ⟨pt, kind⟩ (offeredCodec_eq_some.mpr ⟨rfl, supported⟩) isBad
  · intro outdone before pt after whole candidate offers isBad
    obtain ⟨rfl, supported⟩ := offeredCodec_eq_some.mp offers
    exact outdone before _ after whole candidate.kind supported isBad

/-- Where the codec of an accepted offer comes from. -/
theorem selected_of_offer {features : Features} {sdp : SessionDescription} {audioMedia : MediaDescription}
    {offer : SdpOffer} (audio : sdp.audioMedia = some audioMedia) (accepted : offerOf features sdp = .ok offer) :
    audioMedia.selected features = some ⟨offer.payloadType, offer.codecKind⟩ := by
  rw [offerOf_of_audio features audio] at accepted
  unfold offerWith at accepted
  split at accepted
  · cases accepted
  · cases accepted
  · rename_i chosen
    cases accepted
    exact chosen

end RsipstackServer
