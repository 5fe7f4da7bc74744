import Mathlib.Logic.Basic
import TaskMessaging.Timer.Expiry

/-!
# What a timer tells its owner

The message about an expiry holds two words in sixteen bytes, and nothing more is agreed on between
the dispatcher and a task than how they lie in these bytes. The task gets the words that the
dispatcher had: bytes are the digits of a number to the base 256, and a number below `256 ^ n` has
exactly one list of `n` digits. So sixteen bytes always are an expiry, and of a single one.
-/

namespace TaskMessaging

/-! ## Words as bytes -/

variable {bs : List UInt8} {n : UInt64}

theorem ofLittleEndian_lt (bs : List UInt8) : ofLittleEndian bs < Nat.pow 256 bs.length := by
  induction bs with
  | nil => exact Nat.one_pos
  | cons b bs ih =>
    have hb : b.toNat < 256 := b.toNat_lt
    show b.toNat + 256 * ofLittleEndian bs < Nat.pow 256 bs.length * 256
    omega

/-- A number of so many bytes has only these. -/
theorem littleEndian_ofLittleEndian (bs : List UInt8) :
    littleEndian bs.length (ofLittleEndian bs) = bs := by
  induction bs with
  | nil => rfl
  | cons b bs ih =>
    have hb : b.toNat < 256 := b.toNat_lt
    have hrest : (b.toNat + 256 * ofLittleEndian bs) / 256 = ofLittleEndian bs := by omega
    have hfirst : UInt8.ofNat (b.toNat + 256 * ofLittleEndian bs) = b := by
      refine UInt8.toNat_inj.mp ?_
      rw [UInt8.toNat_ofNat']
      omega
    show UInt8.ofNat (b.toNat + 256 * ofLittleEndian bs) ::
      littleEndian bs.length ((b.toNat + 256 * ofLittleEndian bs) / 256) = b :: bs
    rw [hfirst, hrest, ih]

/-- Eight bytes hold a word. -/
theorem ofLittleEndian_littleEndian_word (n : UInt64) :
    UInt64.ofNat (ofLittleEndian (littleEndian 8 n.toNat)) = n := by
  have hlt : n.toNat < Nat.pow 256 8 := n.toNat_lt
  rw [ofLittleEndian_littleEndian, Nat.mod_eq_of_lt hlt, UInt64.ofNat_toNat]

/-- A word has eight bytes, and eight bytes are those of a word. -/
theorem littleEndian_ofLittleEndian_word (h : bs.length = 8) :
    littleEndian 8 (UInt64.ofNat (ofLittleEndian bs)).toNat = bs := by
  have hlt : ofLittleEndian bs < Nat.pow 256 8 := h ▸ ofLittleEndian_lt bs
  rw [UInt64.toNat_ofNat_of_lt' hlt, ← h, littleEndian_ofLittleEndian]

namespace TimerExpiry

variable {x : TimerExpiry} {e : Envelope} {data : InlinePayload}

/-! ## Encoding -/

theorem length_bytes (x : TimerExpiry) : x.bytes.length = 16 := by
  rw [bytes, List.length_append, length_littleEndian, length_littleEndian]

theorem inline?_bytes (x : TimerExpiry) : Payload.inline? x.bytes = some x.toPayload := by
  have hle : x.bytes.length ≤ Limits.inlineBytes := x.length_bytes ▸ by decide
  rw [Payload.inline?, InlinePayload.ofBytes?, dif_pos hle]
  rfl

/-! ## Decoding -/

/-- The expiry in sixteen bytes. -/
def ofBytes (bs : List UInt8) : TimerExpiry where
  timer := ⟨UInt64.ofNat (ofLittleEndian (bs.take 8))⟩
  userData := UInt64.ofNat (ofLittleEndian (bs.drop 8))

theorem ofBytes_bytes (x : TimerExpiry) : ofBytes x.bytes = x := by
  have hfirst : (littleEndian 8 x.timer.number.toNat).length = 8 := length_littleEndian 8 _
  rw [ofBytes, bytes, List.take_left' hfirst, List.drop_left' hfirst,
    ofLittleEndian_littleEndian_word, ofLittleEndian_littleEndian_word]

theorem bytes_ofBytes (h : bs.length = 16) : (ofBytes bs).bytes = bs := by
  have hfirst : (bs.take 8).length = 8 := by rw [List.length_take, h]; rfl
  have hlast : (bs.drop 8).length = 8 := by rw [List.length_drop, h]
  rw [bytes, ofBytes, littleEndian_ofLittleEndian_word hfirst,
    littleEndian_ofLittleEndian_word hlast, List.take_append_drop]

theorem ofEnvelope?_eq_some_iff : ofEnvelope? e = some x ↔
    e.kind = .timerExpired ∧ ∃ data, e.payload = .inline data ∧ data.bytes.length = 16 ∧
      ofBytes data.bytes = x := by
  rw [ofEnvelope?]
  constructor
  · intro h
    obtain ⟨hkind, h⟩ | ⟨-, ⟨⟩⟩ := ite_eq_iff.mp h
    split at h
    · next data hdata =>
      obtain ⟨hlength, h⟩ | ⟨-, ⟨⟩⟩ := ite_eq_iff.mp h
      exact ⟨hkind, data, hdata, hlength, Option.some_inj.mp h⟩
    · cases h
  · rintro ⟨hkind, data, hdata, hlength, rfl⟩
    rw [if_pos hkind, hdata]
    exact if_pos hlength

theorem ofEnvelope?_of_toPayload (hkind : e.kind = .timerExpired)
    (hpayload : e.payload = x.toPayload) :
    ofEnvelope? e = some x :=
  ofEnvelope?_eq_some_iff.mpr ⟨hkind, _, hpayload, x.length_bytes, x.ofBytes_bytes⟩

/-- Only the payload of an expiry is read as that expiry. -/
theorem exists_of_ofEnvelope? (h : ofEnvelope? e = some x) :
    ∃ data, e.payload = .inline data ∧ x.toPayload = .inline data ∧ data.bytes = x.bytes := by
  obtain ⟨-, data, hdata, hlength, rfl⟩ := ofEnvelope?_eq_some_iff.mp h
  have hbytes : (ofBytes data.bytes).bytes = data.bytes := bytes_ofBytes hlength
  refine ⟨data, hdata, ?_, hbytes.symm⟩
  cases data
  exact congrArg Payload.inline (InlinePayload.mk.injEq .. ▸ hbytes)

/-! ## The law -/

/-- Expiries and the envelopes that carry them. -/
structure CodecLaw : Prop where
  /-- There is always room for the sixteen bytes, so that nothing has to take their place. -/
  fits : ∀ x : TimerExpiry, Payload.inline? x.bytes = some x.toPayload ∧ x.bytes.length = 16
  decodes : ∀ (x : TimerExpiry) (e : Envelope), e.kind = .timerExpired → e.payload = x.toPayload →
    ofEnvelope? e = some x
  accepts : ∀ e : Envelope, (∃ x, ofEnvelope? e = some x) ↔
    e.kind = .timerExpired ∧ ∃ data, e.payload = .inline data ∧ data.bytes.length = 16
  encodes : ∀ (e : Envelope) (x : TimerExpiry), ofEnvelope? e = some x → x.toPayload = e.payload
  /-- How the expiry that was read lies in its envelope. -/
  area : ∀ (e : Envelope) (x : TimerExpiry), ofEnvelope? e = some x →
    ∃ data, e.payload = .inline data ∧ x.toPayload = .inline data ∧ data.area.count = 16 ∧
      data.area.area = x.bytes ++ List.replicate 16 0
  /-- What is read off an area is what was put into it. -/
  contents : ∀ data : InlinePayload, data.area.contents = data.bytes

theorem codec_law : CodecLaw where
  fits := fun x ↦ ⟨x.inline?_bytes, x.length_bytes⟩
  decodes := fun _ _ ↦ ofEnvelope?_of_toPayload
  accepts := fun e ↦ by
    constructor
    · rintro ⟨x, h⟩
      obtain ⟨hkind, data, hdata, hlength, -⟩ := ofEnvelope?_eq_some_iff.mp h
      exact ⟨hkind, data, hdata, hlength⟩
    · rintro ⟨hkind, data, hdata, hlength⟩
      exact ⟨_, ofEnvelope?_eq_some_iff.mpr ⟨hkind, data, hdata, hlength, rfl⟩⟩
  encodes := fun e x h ↦ by
    obtain ⟨data, hdata, hpayload, -⟩ := exists_of_ofEnvelope? h
    rw [hpayload, hdata]
  area := fun e x h ↦ by
    obtain ⟨data, hdata, hpayload, hbytes⟩ := exists_of_ofEnvelope? h
    refine ⟨data, hdata, hpayload, ?_, ?_⟩
    · show UInt8.ofNat data.bytes.length = 16
      rw [hbytes, x.length_bytes]
      rfl
    · show data.bytes ++ List.replicate (Limits.inlineBytes - data.bytes.length) 0 = _
      rw [hbytes, x.length_bytes]
      rfl
  contents := InlinePayload.contents_area

end TimerExpiry

end TaskMessaging
