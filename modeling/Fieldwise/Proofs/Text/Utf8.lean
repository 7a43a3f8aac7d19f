import Fieldwise.Text.Utf8
import Mathlib.Data.List.TakeWhile

/-! # UTF-8 and its inverse

Bytes are decoded exactly if they are the encodings of some characters one after the other, and then
to these characters (`Text.decodeFrom_eq_ok_iff`). The encoding is the one of the standard library.
-/

namespace Fieldwise.Text

open String (utf8EncodeChar)

/-! ## Single bytes -/

theorem isContinuation_iff (byte : UInt8) :
    isContinuation byte ↔ 128 ≤ byte.toNat ∧ byte.toNat < 192 := by
  have each : ∀ value : Fin 256, isContinuation (UInt8.ofNat value) =
      decide (128 ≤ value.val ∧ value.val < 192) := by
    decide +kernel
  have same := each ⟨byte.toNat, byte.toNat_lt⟩
  rw [UInt8.ofNat_toNat] at same
  rw [same, decide_eq_true_iff]

/-- The number of bytes that a first byte announces, by its value. -/
theorem sequenceLength_eq (byte : UInt8) : sequenceLength byte =
    if byte.toNat < 128 then some 1
    else if byte.toNat < 194 then none
    else if byte.toNat < 224 then some 2
    else if byte.toNat < 240 then some 3
    else if byte.toNat < 245 then some 4
    else none := by
  rfl

theorem sequenceLength_pos {byte : UInt8} {count : Nat} (announced : sequenceLength byte = some count) :
    0 < count := by
  rw [sequenceLength_eq] at announced
  split_ifs at announced <;> cases announced <;> decide

theorem continues_iff (lead second : UInt8) : continues lead second ↔
    (128 ≤ second.toNat ∧ second.toNat < 192) ∧ (lead.toNat = 224 → 160 ≤ second.toNat) ∧
      (lead.toNat = 237 → second.toNat < 160) ∧ (lead.toNat = 240 → 144 ≤ second.toNat) ∧
      (lead.toNat = 244 → second.toNat < 144) := by
  have leadIs (value : UInt8) : lead = value ↔ lead.toNat = value.toNat := UInt8.toNat_inj.symm
  simp [continues, isContinuation_iff, UInt8.lt_iff_toNat_lt, UInt8.le_iff_toNat_le, leadIs,
    and_assoc]
  intro _ _
  simp only [imp_iff_not_or]

/-! ## Followers -/

/-- The first items all pass a test exactly if as many of them do as are asked for. -/
theorem le_length_takeWhile_take_iff {α : Type} (test : α → Bool) (wanted : Nat) (items : List α) :
    wanted ≤ ((items.take wanted).takeWhile test).length ↔
      ∃ middle rest, items = middle ++ rest ∧ middle.length = wanted ∧ ∀ item ∈ middle, test item := by
  constructor
  · intro enough
    have prefixed : (items.take wanted).takeWhile test <+: items.take wanted :=
      List.takeWhile_prefix test
    have short := List.length_take_le wanted items
    have whole : (items.take wanted).takeWhile test = items.take wanted :=
      prefixed.eq_of_length_le (by omega)
    rw [whole] at enough
    exact ⟨items.take wanted, items.drop wanted, (List.take_append_drop _ _).symm, by omega,
      List.takeWhile_eq_self_iff.1 whole⟩
  · rintro ⟨middle, rest, rfl, rfl, passes⟩
    rw [List.take_left, List.takeWhile_eq_self_iff.2 passes]

/-- All announced followers are right exactly if the second byte may follow the first and the others
continue the character. -/
theorem goodFollowers_eq_iff (lead : UInt8) (wanted : Nat) (bytes : List UInt8) :
    (goodFollowers lead (wanted + 1) bytes).1 = wanted + 1 ↔
      ∃ second middle rest, bytes = second :: (middle ++ rest) ∧ continues lead second ∧
        middle.length = wanted ∧ ∀ byte ∈ middle, isContinuation byte := by
  have enough (good : Nat) : min good (wanted + 1) = wanted + 1 ↔ wanted + 1 ≤ good := by omega
  cases bytes with
  | nil => simp [goodFollowers]
  | cons second rest =>
    rw [goodFollowers.eq_def]
    dsimp only
    rw [enough]
    by_cases follows : continues lead second
    · rw [if_pos follows, Nat.add_comm 1, Nat.add_le_add_iff_right, Nat.add_sub_cancel,
        le_length_takeWhile_take_iff]
      constructor
      · rintro ⟨middle, others, rfl, length, continued⟩
        exact ⟨second, middle, others, rfl, follows, length, continued⟩
      · rintro ⟨_, middle, others, same, -, length, continued⟩
        obtain ⟨rfl, rfl⟩ := List.cons.inj same
        exact ⟨middle, others, rfl, length, continued⟩
    · rw [if_neg follows]
      constructor
      · rintro ⟨⟩
      · rintro ⟨_, middle, others, same, other, -⟩
        rw [(List.cons.inj same).1] at follows
        exact absurd other follows

/-! ## Characters -/

/-- A first byte with the followers that it announces. -/
structure IsSequence (lead : UInt8) (followers : List UInt8) : Prop where
  announced : sequenceLength lead = some (followers.length + 1)
  second : ∀ byte ∈ followers.head?, continues lead byte
  others : ∀ byte ∈ followers.tail, isContinuation byte

/-- The code point of a first byte and its followers. -/
def codeOf (lead : UInt8) (followers : List UInt8) : Nat :=
  sequenceValue lead (followers.length + 1) followers

theorem codeOf_nil (lead : UInt8) : codeOf lead [] = lead.toNat := rfl

theorem codeOf_one (lead first : UInt8) :
    codeOf lead [first] = 64 * (lead.toNat % 32) + first.toNat % 64 := rfl

theorem codeOf_two (lead first next : UInt8) : codeOf lead [first, next] =
    64 * (64 * (lead.toNat % 16) + first.toNat % 64) + next.toNat % 64 := rfl

theorem codeOf_three (lead first next last : UInt8) : codeOf lead [first, next, last] =
    64 * (64 * (64 * (lead.toNat % 8) + first.toNat % 64) + next.toNat % 64) +
      last.toNat % 64 := rfl

/-- A first byte and its followers are decoded to their code point. -/
theorem decodeFrom_sequence {lead : UInt8} {followers : List UInt8}
    (isSequence : IsSequence lead followers) (position : Nat) (rest : List UInt8) :
    decodeFrom position (lead :: (followers ++ rest)) =
      (decodeFrom (position + (followers.length + 1)) rest).map
        (Char.ofNat (codeOf lead followers) :: ·) := by
  obtain ⟨announced, second, others⟩ := isSequence
  have good : (goodFollowers lead followers.length (followers ++ rest)).1 = followers.length := by
    cases followers with
    | nil => rw [goodFollowers.eq_def]; exact Nat.min_zero _
    | cons byte middle =>
      exact (goodFollowers_eq_iff _ _ _).2 ⟨byte, middle, rest, rfl, second byte rfl, rfl, others⟩
  rw [decodeFrom, announced]
  dsimp only
  rw [Nat.add_sub_cancel, if_pos (by rw [good]), good, List.drop_left, List.take_left]
  rfl

/-- What is decoded begins with a first byte and its followers. -/
theorem exists_of_decodeFrom {position : Nat} {lead : UInt8} {bytes : List UInt8}
    {chars : List Char} (decoded : decodeFrom position (lead :: bytes) = .ok chars) :
    ∃ followers rest, bytes = followers ++ rest ∧ IsSequence lead followers := by
  rw [decodeFrom] at decoded
  cases announced : sequenceLength lead with
  | none =>
    rw [announced] at decoded
    cases decoded
  | some count =>
    rw [announced] at decoded
    dsimp only at decoded
    split at decoded
    · rename_i complete
      have positive := sequenceLength_pos announced
      obtain _ | _ | wanted := count
      · cases positive
      · exact ⟨[], bytes, rfl, announced, by simp, by simp⟩
      · obtain ⟨second, middle, rest, rfl, follows, rfl, continued⟩ :=
          (goodFollowers_eq_iff lead wanted bytes).1 (by simpa using complete)
        exact ⟨second :: middle, rest, rfl, announced, by simpa using follows, continued⟩
    · cases decoded

theorem utf8EncodeChar_ofNat {code : Nat} (valid : code.isValidChar) :
    utf8EncodeChar (Char.ofNat code) =
      if code ≤ 127 then [UInt8.ofNat code]
      else if code ≤ 2047 then [UInt8.ofNat (code / 64 % 32 + 192), UInt8.ofNat (code % 64 + 128)]
      else if code ≤ 65535 then
        [UInt8.ofNat (code / 4096 % 16 + 224), UInt8.ofNat (code / 64 % 64 + 128),
          UInt8.ofNat (code % 64 + 128)]
      else
        [UInt8.ofNat (code / 262144 % 8 + 240), UInt8.ofNat (code / 4096 % 64 + 128),
          UInt8.ofNat (code / 64 % 64 + 128), UInt8.ofNat (code % 64 + 128)] := by
  have same : (Char.ofNat code).val.toNat = code := by
    rw [Char.ofNat, dif_pos valid]
    rfl
  rw [utf8EncodeChar, same]

/-- A first byte and its followers are the encoding of their code point. -/
theorem IsSequence.encode {lead : UInt8} {followers : List UInt8}
    (isSequence : IsSequence lead followers) :
    utf8EncodeChar (Char.ofNat (codeOf lead followers)) = lead :: followers := by
  obtain ⟨announced, second, others⟩ := isSequence
  rw [sequenceLength_eq] at announced
  have byteEq (value : Nat) (byte : UInt8) (same : value = byte.toNat) :
      UInt8.ofNat value = byte := by
    rw [same, UInt8.ofNat_toNat]
  match followers with
  | [] =>
    have small : lead.toNat < 128 := by
      split_ifs at announced <;> simp_all
    rw [codeOf_nil, utf8EncodeChar_ofNat (.inl (by omega)), if_pos (by omega), UInt8.ofNat_toNat]
  | [first] =>
    have range : 194 ≤ lead.toNat ∧ lead.toNat < 224 := by
      split_ifs at announced <;> simp_all
    have follows := (continues_iff lead first).1 (second first rfl)
    rw [codeOf_one, utf8EncodeChar_ofNat (.inl (by omega)), if_neg (by omega), if_pos (by omega),
      byteEq _ lead (by omega), byteEq _ first (by omega)]
  | [first, next] =>
    have range : 224 ≤ lead.toNat ∧ lead.toNat < 240 := by
      split_ifs at announced <;> simp_all
    have follows := (continues_iff lead first).1 (second first rfl)
    have continued := (isContinuation_iff next).1 (others next List.mem_cons_self)
    have valid : (codeOf lead [first, next]).isValidChar := by
      rw [codeOf_two, Nat.isValidChar]
      omega
    rw [utf8EncodeChar_ofNat valid, codeOf_two, if_neg (by omega), if_neg (by omega), if_pos (by omega),
      byteEq _ lead (by omega), byteEq _ first (by omega), byteEq _ next (by omega)]
  | [first, next, last] =>
    have range : 240 ≤ lead.toNat ∧ lead.toNat < 245 := by
      split_ifs at announced <;> simp_all
    have follows := (continues_iff lead first).1 (second first rfl)
    have continued := (isContinuation_iff next).1 (others next List.mem_cons_self)
    have ended := (isContinuation_iff last).1 (others last (by simp))
    have valid : (codeOf lead [first, next, last]).isValidChar := by
      rw [codeOf_three, Nat.isValidChar]
      omega
    rw [utf8EncodeChar_ofNat valid, codeOf_three, if_neg (by omega), if_neg (by omega),
      if_neg (by omega),
      byteEq _ lead (by omega), byteEq _ first (by omega), byteEq _ next (by omega),
      byteEq _ last (by omega)]
  | _ :: _ :: _ :: _ :: _ =>
    split_ifs at announced <;> simp_all

/-- The encoding of a character is a first byte with its followers, and it is their code point. -/
theorem exists_sequence (char : Char) : ∃ lead followers,
    utf8EncodeChar char = lead :: followers ∧ IsSequence lead followers ∧
      Char.ofNat (codeOf lead followers) = char := by
  have valid : char.toNat.isValidChar := char.valid
  have bound : char.toNat < 1114112 := by
    rcases valid with small | large
    · omega
    · exact large.2
  have toNat (value : Nat) (small : value < 256) : (UInt8.ofNat value).toNat = value :=
    UInt8.toNat_ofNat_of_lt small
  have ofCode {code : Nat} (same : code = char.toNat) : Char.ofNat code = char := by
    rw [same, Char.ofNat_toNat]
  have encoded := utf8EncodeChar_ofNat valid
  rw [Char.ofNat_toNat] at encoded
  split_ifs at encoded with one two three
  · refine ⟨_, [], encoded, ⟨?_, nofun, nofun⟩, ?_⟩
    · rw [sequenceLength_eq, toNat _ (by omega), if_pos (by omega)]
      rfl
    · rw [codeOf_nil, toNat _ (by omega), Char.ofNat_toNat]
  · refine ⟨_, _, encoded, ⟨?_, ?_, nofun⟩, ?_⟩
    · rw [sequenceLength_eq, toNat _ (by omega), if_neg (by omega), if_neg (by omega),
        if_pos (by omega)]
      rfl
    · rintro _ ⟨rfl⟩
      rw [continues_iff, toNat _ (by omega), toNat _ (by omega)]
      omega
    · rw [codeOf_one, toNat _ (by omega), toNat _ (by omega), ofCode (by omega)]
  · refine ⟨_, _, encoded, ⟨?_, ?_, ?_⟩, ?_⟩
    · rw [sequenceLength_eq, toNat _ (by omega), if_neg (by omega), if_neg (by omega),
        if_neg (by omega), if_pos (by omega)]
      rfl
    · rintro _ ⟨rfl⟩
      rw [continues_iff, toNat _ (by omega), toNat _ (by omega)]
      rcases valid with small | large <;> omega
    · refine List.forall_mem_singleton.2 ?_
      rw [isContinuation_iff, toNat _ (by omega)]
      omega
    · rw [codeOf_two, toNat _ (by omega), toNat _ (by omega), toNat _ (by omega),
        ofCode (by omega)]
  · refine ⟨_, _, encoded, ⟨?_, ?_, ?_⟩, ?_⟩
    · rw [sequenceLength_eq, toNat _ (by omega), if_neg (by omega), if_neg (by omega),
        if_neg (by omega), if_neg (by omega), if_pos (by omega)]
      rfl
    · rintro _ ⟨rfl⟩
      rw [continues_iff, toNat _ (by omega), toNat _ (by omega)]
      omega
    · refine List.forall_mem_cons.2 ⟨?_, List.forall_mem_singleton.2 ?_⟩
      · rw [isContinuation_iff, toNat _ (by omega)]
        omega
      · rw [isContinuation_iff, toNat _ (by omega)]
        omega
    · rw [codeOf_three, toNat _ (by omega), toNat _ (by omega), toNat _ (by omega),
        toNat _ (by omega), ofCode (by omega)]

/-- Bytes are decoded to characters exactly if they encode them. -/
theorem decodeFrom_eq_ok_iff (position : Nat) (bytes : List UInt8) (chars : List Char) :
    decodeFrom position bytes = .ok chars ↔ bytes = chars.flatMap utf8EncodeChar := by
  constructor
  · intro decoded
    induction size : bytes.length using Nat.strong_induction_on generalizing position bytes chars with
    | _ size ih =>
      match bytes with
      | [] =>
        rw [decodeFrom] at decoded
        cases decoded
        rfl
      | lead :: others =>
        obtain ⟨followers, rest, rfl, isSequence⟩ := exists_of_decodeFrom decoded
        rw [decodeFrom_sequence isSequence] at decoded
        cases further : decodeFrom (position + (followers.length + 1)) rest with
        | error _ =>
          rw [further] at decoded
          cases decoded
        | ok tail =>
          rw [further] at decoded
          cases decoded
          have shorter : rest.length < (lead :: (followers ++ rest)).length := by
            rw [List.length_cons, List.length_append]
            omega
          have others := ih rest.length (size ▸ shorter) _ rest tail further rfl
          simp only [List.flatMap_cons, isSequence.encode, ← others, List.cons_append]
  · rintro rfl
    induction chars generalizing position with
    | nil => rw [List.flatMap_nil, decodeFrom]
    | cons char rest ih =>
      obtain ⟨lead, followers, encoded, isSequence, same⟩ := exists_sequence char
      rw [List.flatMap_cons, encoded, List.cons_append, decodeFrom_sequence isSequence, ih, same]
      rfl

/-- A text file is read exactly if its bytes encode some characters, which are given with plain line
ends. -/
theorem decodeLines_eq_ok_iff (bytes : List UInt8) (text : String) :
    decodeLines bytes = .ok text ↔
      ∃ chars, bytes = chars.flatMap utf8EncodeChar ∧ text = String.ofList (plainNewlines chars) := by
  simp only [← decodeFrom_eq_ok_iff 0]
  rw [decodeLines]
  cases decodeFrom 0 bytes with
  | error _ => simp [Except.map]
  | ok chars => simp [Except.map, eq_comm]

end Fieldwise.Text
