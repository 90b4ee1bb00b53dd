import AspectLoom.Proofs.NameRuns
import Mathlib.Algebra.Group.Nat.Defs
/-!
What a reference site is hashed from. The bytes of a site can be read back: its path ends at the first
zero, the offsets take eight bytes each, whatever these are, and the full name is all that is left. So
two sites that have one name by content are the same site, unless their hashes begin alike by chance.
-/
namespace AspectLoom

/-! Digits -/

namespace Hex

theorem digit_injective : ∀ left < 16, ∀ right < 16, digit left = digit right → left = right := by
  decide

theorem encodeByte_injective : Function.Injective encodeByte := by
  intro left right same
  have leftBound := left.toNat_lt
  have rightBound := right.toNat_lt
  simp only [encodeByte, List.cons.injEq, and_true] at same
  have high := digit_injective _ (by omega) _ (by omega) same.1
  have low := digit_injective _ (by omega) _ (by omega) same.2
  exact UInt8.toNat_inj.mp (by omega)

/-- Every byte has two digits, so equal digits are those of equal bytes. -/
theorem encode_injective : Function.Injective encode := by
  intro left right same
  have digits : left.flatMap encodeByte = right.flatMap encodeByte := String.ofList_inj.mp same
  clear same
  induction left generalizing right with
  | nil =>
      cases right with
      | nil => rfl
      | cons byte rest => simp [encodeByte] at digits
  | cons byte rest ih =>
      cases right with
      | nil => simp [encodeByte] at digits
      | cons other others =>
          simp only [List.flatMap_cons] at digits
          obtain ⟨first, later⟩ := List.append_inj digits (by simp [encodeByte])
          rw [encodeByte_injective first, ih later]

end Hex

/-! Bytes of a text -/

namespace Text

theorem toList_loop (bytes : ByteArray) (index : Nat) (front : List UInt8) :
    ByteArray.toList.loop bytes index front = front.reverse ++ bytes.data.toList.drop index := by
  fun_induction ByteArray.toList.loop bytes index front with
  | case1 index front inside ih =>
      have bounded : index < bytes.data.toList.length := inside
      have here : bytes.get! index = bytes.data.toList[index] := getElem!_pos bytes.data index inside
      rw [ih, List.drop_eq_getElem_cons bounded, List.reverse_cons, here, List.append_assoc]
      rfl
  | case2 index front outside =>
      have beyond : bytes.data.toList.length ≤ index := Nat.not_lt.mp outside
      rw [List.drop_eq_nil_of_le beyond, List.append_nil]

theorem toList_bytes (bytes : ByteArray) : bytes.toList = bytes.data.toList := by
  simp [ByteArray.toList, toList_loop]

theorem bytes_injective {left right : String} (same : left.toUTF8.toList = right.toUTF8.toList) :
    left = right := by
  rw [toList_bytes, toList_bytes, Array.toList_inj] at same
  exact String.toByteArray_inj.mp (ByteArray.ext same)

theorem bytes_eq_flatMap (text : String) :
    text.toUTF8.toList = text.toList.flatMap String.utf8EncodeChar := by
  conv_lhs => rw [← String.ofList_toList (s := text)]
  rw [String.toUTF8_eq_toByteArray, String.toByteArray_ofList, toList_bytes, List.utf8Encode,
    List.toList_data_toByteArray]

/-- Of all characters zero alone has a zero among its bytes. -/
theorem zero_notMem_encodeChar {c : Char} (filled : c ≠ '\x00') : 0 ∉ String.utf8EncodeChar c := by
  have nonzero : c.val.toNat ≠ 0 := fun zero => filled (Char.ext (UInt32.toNat_inj.mp zero))
  fun_cases String.utf8EncodeChar c with
  | case1 | case2 | case3 | case4 =>
      simp [← UInt8.toNat_inj]
      omega

theorem zero_notMem_bytes {text : String} (plain : '\x00' ∉ text.toList) : 0 ∉ text.toUTF8.toList := by
  rw [bytes_eq_flatMap, List.mem_flatMap]
  rintro ⟨c, member, zero⟩
  exact zero_notMem_encodeChar (fun null => plain (null ▸ member)) zero

end Text

/-! Fields -/

/-- What stands before the first mark and what stands behind it, whether or not more marks follow. -/
theorem cut_at_mark {α : Type} {mark : α} {left right rest others : List α} (leftPlain : mark ∉ left)
    (rightPlain : mark ∉ right) (same : left ++ mark :: rest = right ++ mark :: others) :
    left = right ∧ rest = others := by
  induction left generalizing right with
  | nil =>
      cases right with
      | nil => exact ⟨rfl, (List.cons.inj same).2⟩
      | cons other further => exact absurd (List.cons.inj same).1 (by simp_all)
  | cons first more ih =>
      cases right with
      | nil => exact absurd (List.cons.inj same).1 (by simp_all [eq_comm])
      | cons other further =>
          simp only [List.mem_cons, not_or] at leftPlain rightPlain
          simp only [List.cons_append, List.cons.injEq] at same
          obtain ⟨here, behind⟩ := ih leftPlain.2 rightPlain.2 same.2
          exact ⟨by rw [same.1, here], behind⟩

namespace ContentHash

theorem length_offsetBytes (offset : Nat) : (offsetBytes offset).length = 8 := by simp [offsetBytes]

/-- The lower bytes of two numbers agree just as far as the numbers do. -/
theorem mod_eq_of_bytes {left right count : Nat}
    (same : ∀ index < count,
      UInt8.ofNat (left >>> (8 * index)) = UInt8.ofNat (right >>> (8 * index))) :
    left % 256 ^ count = right % 256 ^ count := by
  induction count with
  | zero => simp [Nat.mod_one]
  | succ count ih =>
      have last := congrArg UInt8.toNat (same count (Nat.lt_succ_self count))
      have power : 2 ^ (8 * count) = 256 ^ count := by rw [Nat.pow_mul]
      simp only [UInt8.toNat_ofNat', Nat.shiftRight_eq_div_pow, power] at last
      rw [Nat.mod_pow_succ, Nat.mod_pow_succ,
        ih fun index below => same index (Nat.lt_succ_of_lt below), last]

theorem offsetBytes_inj {left right : Nat} (leftFits : left < 2 ^ 64) (rightFits : right < 2 ^ 64)
    (same : offsetBytes left = offsetBytes right) : left = right := by
  have each := List.map_inj_left.mp same
  have equal : left % 256 ^ 8 = right % 256 ^ 8 :=
    mod_eq_of_bytes fun index below => each index (List.mem_range.mpr below)
  omega

end ContentHash

/-! Sites -/

namespace NameRequest

/-- The bytes that a reference is named from by its content. -/
def contents (request : NameRequest) : List UInt8 :=
  ContentHash.siteBytes request.path request.span request.fullName

/-- Whether a path can be one of a file and the offsets fit into a machine word. -/
structure Encodable (request : NameRequest) : Prop where
  plain : '\x00' ∉ request.path.text.toList
  start : request.span.start < 2 ^ 64
  stop : request.span.stop < 2 ^ 64

instance (request : NameRequest) : Decidable request.Encodable :=
  decidable_of_iff ('\x00' ∉ request.path.text.toList ∧ request.span.start < 2 ^ 64 ∧
      request.span.stop < 2 ^ 64)
    ⟨fun ⟨plain, start, stop⟩ => ⟨plain, start, stop⟩,
      fun ⟨plain, start, stop⟩ => ⟨plain, start, stop⟩⟩

variable {left right : NameRequest}

theorem contents_inj (leftFits : left.Encodable) (rightFits : right.Encodable)
    (same : left.contents = right.contents) : left = right := by
  unfold contents ContentHash.siteBytes at same
  simp only [List.append_assoc, List.cons_append] at same
  obtain ⟨paths, same⟩ := cut_at_mark (Text.zero_notMem_bytes leftFits.plain)
    (Text.zero_notMem_bytes rightFits.plain) same
  -- from here on zeros separate nothing: the offsets are told by their number of bytes
  obtain ⟨starts, same⟩ := List.append_inj same (by simp [ContentHash.length_offsetBytes])
  obtain ⟨stops, same⟩ := List.append_inj same (by simp [ContentHash.length_offsetBytes])
  have names := Text.bytes_injective (List.cons.inj same).2
  have start := ContentHash.offsetBytes_inj leftFits.start rightFits.start starts
  have stop := ContentHash.offsetBytes_inj leftFits.stop rightFits.stop stops
  have path := Text.bytes_injective paths
  obtain ⟨⟨_⟩, ⟨_, _⟩, _⟩ := left
  obtain ⟨⟨_⟩, ⟨_, _⟩, _⟩ := right
  simp_all

end NameRequest

/-- Two byte strings that differ although as much of their hashes agrees as is kept in a name. -/
def Blake3.CollideShort (left right : List UInt8) : Prop :=
  left ≠ right ∧ (hash left).take 8 = (hash right).take 8

theorem NameRequest.short_eq_iff {left right : NameRequest} : left.short = right.short ↔
    (Blake3.hash left.contents).take 8 = (Blake3.hash right.contents).take 8 :=
  Hex.encode_injective.eq_iff

end AspectLoom
