import TaskMessaging.Envelope

/-!
# Timer expiries

The message that tells a task about one of its timers carries sixteen bytes: the identifier of the
timer and the number that was given when it was armed, each as eight bytes, the least significant
first.
-/

namespace TaskMessaging

/-- The eight bytes of a word, least significant first. -/
def littleEndian : Nat → Nat → List UInt8
  | 0, _ => []
  | width + 1, n => UInt8.ofNat n :: littleEndian width (n / 256)

/-- The number whose bytes are given, least significant first. -/
def ofLittleEndian : List UInt8 → Nat
  | [] => 0
  | b :: bs => b.toNat + 256 * ofLittleEndian bs

@[simp] theorem length_littleEndian (width n : Nat) : (littleEndian width n).length = width := by
  induction width generalizing n with
  | zero => rfl
  | succ width ih => simp [littleEndian, ih]

theorem ofLittleEndian_littleEndian (width n : Nat) :
    ofLittleEndian (littleEndian width n) = n % Nat.pow 256 width := by
  induction width generalizing n with
  | zero => simp [littleEndian, ofLittleEndian, Nat.mod_one]
  | succ width ih =>
    show (UInt8.ofNat n).toNat + 256 * ofLittleEndian (littleEndian width (n / 256)) = _
    rw [ih, show (UInt8.ofNat n).toNat = n % 256 from UInt8.toNat_ofNat']
    show n % 256 + 256 * (n / 256 % Nat.pow 256 width) = n % (Nat.pow 256 width * 256)
    rw [Nat.mul_comm (Nat.pow 256 width) 256, Nat.mod_mul]

/-- What the owner of a timer is told when it expires. -/
structure TimerExpiry where
  timer : TimerId
  userData : UInt64
deriving DecidableEq

namespace TimerExpiry

/-- The bytes of an expiry. -/
def bytes (x : TimerExpiry) : List UInt8 :=
  littleEndian 8 x.timer.number.toNat ++ littleEndian 8 x.userData.toNat

/-- The payload that carries an expiry. Sixteen bytes always fit inline. -/
def toPayload (x : TimerExpiry) : Payload :=
  .inline ⟨x.bytes, by simp [bytes, Limits.inlineBytes]⟩

/-- The expiry that an envelope carries, if it is one. -/
def ofEnvelope? (e : Envelope) : Option TimerExpiry :=
  if e.kind = .timerExpired then
    match e.payload with
    | .inline data =>
      if data.bytes.length = 16 then
        some ⟨⟨UInt64.ofNat (ofLittleEndian (data.bytes.take 8))⟩,
          UInt64.ofNat (ofLittleEndian (data.bytes.drop 8))⟩
      else none
    | _ => none
  else none

end TimerExpiry

end TaskMessaging
