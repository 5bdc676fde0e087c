/-
# Whole numbers that are cut to a word

A configuration keeps each of its ten numbers in a machine word.  A whole number of a document is
cut to the low bits of that word first (`Json.toInt32` and its like), and the ranges are looked at
afterwards, in `Config.validate`.  So the number that is in range is the one that was kept, and it
need not be the one that stands in the document.

**A document is accepted by what is kept of its numbers** (`numbers_are_admitted_as_kept`).  A
number that its word can hold is in its range and is kept unchanged; and the numbers accepted
under a key are all those that are cut to a number in its range, no matter how far out of it they
are themselves.  The payload size is the one key where nothing is lost: its word is as wide as the
integers of a document, and what is cut to a size in range was a size in range.

`cut_into_range` is a document in which all the other keys go wrong at once.
-/
import Mathlib
import IcmpEcho.Proofs.Documents

namespace IcmpEcho

namespace Config

/-! ## 1. Words -/

/-- A machine word for whole numbers. -/
inductive Word
  | int32
  | uint32
  | uint64
  deriving DecidableEq, Repr

namespace Word

/-- The least number in the word. -/
def least : Word → Int
  | int32 => -2147483648
  | uint32 => 0
  | uint64 => 0

/-- How many numbers the word tells apart. -/
def numbers : Word → Int
  | int32 => 4294967296
  | uint32 => 4294967296
  | uint64 => 18446744073709551616

/-- The number fits the word. -/
def Holds (word : Word) (n : Int) : Prop := word.least ≤ n ∧ n < word.least + word.numbers

/-- What the word keeps of a number. -/
def keep (word : Word) (n : Int) : Int := (n - word.least) % word.numbers + word.least

theorem numbers_pos (word : Word) : 0 < word.numbers := by cases word <;> decide

theorem holds_keep (word : Word) (n : Int) : word.Holds (word.keep n) := by
  have hnonneg := Int.emod_nonneg (n - word.least) (Int.ne_of_gt word.numbers_pos)
  have hlt := Int.emod_lt_of_pos (n - word.least) word.numbers_pos
  unfold Holds keep
  omega

/-- **A number is kept unchanged exactly if it fits.** -/
theorem keep_eq_self_iff (word : Word) (n : Int) : word.keep n = n ↔ word.Holds n := by
  constructor
  · intro h
    rw [← h]
    exact word.holds_keep n
  · rintro ⟨hleast, hlt⟩
    unfold keep
    rw [Int.emod_eq_of_lt (by omega) (by omega)]
    omega

end Word

section Taken

variable {tree : Json} {path : List String} {n : Int} (hn : tree.at? path = some (.integer n))
include hn

/-- A whole number is taken over into a word by what the word keeps of it. -/
theorem taken_int32 {default value : Int} (h : tree.Holds path Json.toInt32 default value) :
    value = Word.int32.keep n := by
  cases h.convert_eq hn
  rw [Int32.toInt_ofInt]
  simp only [Word.keep, Word.least, Word.numbers, Int.bmod, Int32.size]
  omega

theorem taken_uint32 {default value : UInt32}
    (h : tree.Holds path Json.toUInt32 default value) :
    (value.toNat : Int) = Word.uint32.keep n := by
  cases h.convert_eq hn
  simp only [Word.keep, Word.least, Word.numbers, UInt32.ofInt, UInt32.toNat_ofNat']
  omega

theorem taken_uint64 {default value : Nat} (h : tree.Holds path Json.toSize default value) :
    (value : Int) = Word.uint64.keep n := by
  cases h.convert_eq hn
  simp only [Word.keep, Word.least, Word.numbers, UInt64.ofInt, UInt64.toNat_ofNat']
  omega

end Taken

/-! ## 2. The numbers of a configuration -/

/-- The keys of a document that stand for numbers. -/
inductive NumberKey
  | logLevel
  | count
  | interval
  | size
  | timeout
  | ttl
  | ident
  | sendLimit
  | sendBuffer
  | receiveBuffer
  deriving DecidableEq, Repr

namespace NumberKey

/-- Where the key stands in a document. -/
def place : NumberKey → List String
  | logLevel => ["log_level"]
  | count => ["count"]
  | interval => ["interval"]
  | size => ["ping", "size"]
  | timeout => ["ping", "timeout"]
  | ttl => ["ping", "ttl"]
  | ident => ["ping", "ident"]
  | sendLimit => ["socket", "send_limit_pps"]
  | sendBuffer => ["socket", "send_buffer_size"]
  | receiveBuffer => ["socket", "recv_buffer_size"]

/-- The word that its number is kept in. -/
def word : NumberKey → Word
  | count => .uint32
  | size => .uint64
  | sendLimit => .uint64
  | _ => .int32

/-- The numbers that it may have. -/
def Admits : NumberKey → Int → Prop
  | logLevel, n => 0 ≤ n ∧ n ≤ 5
  | count, n => 0 ≤ n ∧ n < 4294967296
  | interval, n => 1 ≤ n
  | size, n => 0 ≤ n ∧ n ≤ 65507
  | timeout, n => 1 ≤ n
  | ttl, n => 1 ≤ n ∧ n ≤ 255
  | ident, n => -1 ≤ n ∧ n ≤ 65535
  | sendLimit, n => 1 ≤ n
  | sendBuffer, n => 0 ≤ n
  | receiveBuffer, n => 0 ≤ n

/-- The number that a configuration has for it. -/
def value (config : Config) : NumberKey → Int
  | logLevel => config.logLevel
  | count => config.count.toNat
  | interval => config.interval
  | size => config.ping.size
  | timeout => config.ping.timeout
  | ttl => config.ping.ttl
  | ident => config.ping.ident
  | sendLimit => config.socket.sendLimit
  | sendBuffer => config.socket.sendBuffer
  | receiveBuffer => config.socket.receiveBuffer

/-- **What is kept of a number.** -/
theorem value_of_describes {tree : Json} {config : Config} (h : Describes tree config)
    {key : NumberKey} {n : Int} (hn : tree.at? key.place = some (.integer n)) :
    key.value config = key.word.keep n := by
  cases key with
  | logLevel => exact taken_int32 hn h.logLevel
  | count => exact taken_uint32 hn h.count
  | interval => exact taken_int32 hn h.interval
  | size => exact taken_uint64 hn h.size
  | timeout => exact taken_int32 hn h.timeout
  | ttl => exact taken_int32 hn h.ttl
  | ident => exact taken_int32 hn h.ident
  | sendLimit => exact taken_uint64 hn h.sendLimit
  | sendBuffer => exact taken_int32 hn h.sendBuffer
  | receiveBuffer => exact taken_int32 hn h.receiveBuffer

/-- A configuration in range has an admitted number for every key. -/
theorem admits_value {config : Config} (h : config.InRange) (key : NumberKey) :
    key.Admits (key.value config) := by
  have hcount := config.count.toNat_lt
  have hsize : config.ping.size ≤ 65507 := h.size
  have hlimit := h.sendLimit
  cases key with
  | logLevel => exact h.logLevel
  | count =>
    simp only [Admits, value]
    omega
  | interval => exact h.interval
  | size =>
    simp only [Admits, value]
    omega
  | timeout => exact h.timeout
  | ttl => exact h.ttl
  | ident => exact h.ident
  | sendLimit =>
    simp only [Admits, value]
    omega
  | sendBuffer => exact h.sendBuffer
  | receiveBuffer => exact h.receiveBuffer

/-! ## 3. Documents with one number -/

/-- The document in which a number stands under this key, and nothing else does. -/
def document (key : NumberKey) (n : Int) : Json :=
  key.place.foldr (fun name inner => .object [(name, inner)]) (.integer n)

/-- What it describes. -/
def alone (n : Int) : NumberKey → Config
  | logLevel => { logLevel := (Int32.ofInt n).toInt }
  | count => { count := UInt32.ofInt n }
  | interval => { interval := (Int32.ofInt n).toInt }
  | size => { ping := { size := (UInt64.ofInt n).toNat } }
  | timeout => { ping := { timeout := (Int32.ofInt n).toInt } }
  | ttl => { ping := { ttl := (Int32.ofInt n).toInt } }
  | ident => { ping := { ident := (Int32.ofInt n).toInt } }
  | sendLimit => { socket := { sendLimit := (UInt64.ofInt n).toNat } }
  | sendBuffer => { socket := { sendBuffer := (Int32.ofInt n).toInt } }
  | receiveBuffer => { socket := { receiveBuffer := (Int32.ofInt n).toInt } }

theorem at?_document (key : NumberKey) (n : Int) :
    (key.document n).at? key.place = some (.integer n) := by
  cases key <;> rfl

theorem describes_document (key : NumberKey) (n : Int) :
    Describes (key.document n) (alone n key) := by
  rw [describes_iff]
  cases key <;> exact ⟨rfl, rfl⟩

/-- A fresh configuration is in range. -/
theorem inRange_fresh : ({} : Config).InRange := validate_iff_inRange.mp rfl

theorem inRange_alone {key : NumberKey} {n : Int} (h : key.Admits (key.word.keep n)) :
    (alone n key).InRange := by
  rw [← value_of_describes (describes_document key n) (at?_document key n)] at h
  cases key with
  | logLevel => exact { inRange_fresh with logLevel := h }
  | count => exact { inRange_fresh with }
  | interval => exact { inRange_fresh with interval := h }
  | size => exact { inRange_fresh with size := Int.ofNat_le.mp h.2 }
  | timeout => exact { inRange_fresh with timeout := h }
  | ttl => exact { inRange_fresh with ttl := h }
  | ident => exact { inRange_fresh with ident := h }
  | sendLimit => exact { inRange_fresh with sendLimit := Int.ofNat_le.mp h }
  | sendBuffer => exact { inRange_fresh with sendBuffer := h }
  | receiveBuffer => exact { inRange_fresh with receiveBuffer := h }

end NumberKey

/-! ## 4. The whole numbers of a text -/

end Config

namespace Json

/-- The whole numbers of a document, wherever they stand, have 64 bits, with or without a sign. -/
def FitsWords (tree : Json) : Prop :=
  ∀ path n, tree.at? path = some (.integer n) → -9223372036854775808 ≤ n ∧ n < 18446744073709551616

theorem fitsWords_integer {n : Int} (h : -9223372036854775808 ≤ n ∧ n < 18446744073709551616) :
    FitsWords (.integer n) := by
  intro path m hm
  cases path with
  | nil => cases hm; exact h
  | cons name path => cases hm

theorem foldl_named {name : String} {members : List (String × Json)} {start : Option Json}
    {found : Json}
    (h : members.foldl (fun found member => if member.1 = name then some member.2 else found) start
      = some found) :
    start = some found ∨ ∃ member ∈ members, member.2 = found := by
  induction members generalizing start with
  | nil => exact .inl h
  | cons member members ih =>
    rw [List.foldl_cons] at h
    obtain hstart | ⟨other, hother, hfound⟩ := ih h
    · split at hstart
      · exact .inr ⟨member, List.mem_cons_self, Option.some.inj hstart⟩
      · exact .inl hstart
    · exact .inr ⟨other, List.mem_cons_of_mem _ hother, hfound⟩

theorem lastNamed_mem {name : String} {members : List (String × Json)} {found : Json}
    (h : lastNamed name members = some found) : ∃ member ∈ members, member.2 = found := by
  obtain hnone | hmem := foldl_named h
  · cases hnone
  · exact hmem

theorem fitsWords_object {members : List (String × Json)}
    (h : ∀ member ∈ members, FitsWords member.2) : FitsWords (.object members) := by
  intro path n hn
  cases path with
  | nil => cases hn
  | cons name path =>
    rw [at?_object] at hn
    obtain ⟨found, hfound, hn⟩ := Option.bind_eq_some_iff.mp hn
    obtain ⟨member, hmember, rfl⟩ := lastNamed_mem hfound
    exact h member hmember path n hn

/-- A value with nothing inside that is no whole number. -/
theorem fitsWords_leaf {tree : Json} (hself : ∀ n, tree ≠ .integer n)
    (hobject : ∀ members, tree ≠ .object members) : FitsWords tree := by
  intro path n hn
  cases path with
  | nil =>
    rw [at?_nil] at hn
    exact absurd (Option.some.inj hn) (hself n)
  | cons name path =>
    cases tree with
    | object members => exact absurd rfl (hobject members)
    | _ => cases hn

/-- A numeral is a whole number only if that has 64 bits. -/
theorem fitsWords_value {numeral : Numeral} {value : Json} (h : numeral.value = .ok value) :
    FitsWords value := by
  have hdouble {read : Except JsonFault Rat} (hread : read.map Json.double = .ok value) :
      FitsWords value := by
    obtain ⟨double, -, rfl⟩ := map_eq_ok.mp hread
    exact fitsWords_leaf (fun _ => Json.noConfusion) fun _ => Json.noConfusion
  simp only [Numeral.value] at h
  split at h
  · exact hdouble h
  · split at h
    · split at h
      · next hdigits =>
        cases h
        have htwo : Number.twoTo 63 = 9223372036854775808 := rfl
        exact fitsWords_integer (by omega)
      · exact hdouble h
    · split at h
      · next hdigits =>
        cases h
        have hsize : UInt64.size = 18446744073709551616 := rfl
        exact fitsWords_integer (by omega)
      · exact hdouble h

theorem fitsWords_readPlain {text rest : Bytes} {value : Json}
    (h : readPlain text = .ok (value, rest)) : FitsWords value := by
  unfold readPlain at h
  split at h
  · cases h
    exact fitsWords_leaf (fun _ => Json.noConfusion) fun _ => Json.noConfusion
  · cases h
    exact fitsWords_leaf (fun _ => Json.noConfusion) fun _ => Json.noConfusion
  · cases h
    exact fitsWords_leaf (fun _ => Json.noConfusion) fun _ => Json.noConfusion
  · split at h
    · cases h
    · obtain ⟨read, hread, hvalue⟩ := map_eq_ok.mp h
      cases hvalue
      exact fitsWords_value hread

/-- The elements of an array are at no place of a document. -/
theorem readElements_array {fuel : Nat} {read : List Json} {text rest : Bytes} {value : Json}
    (h : readElements fuel read text = .ok (value, rest)) : ∃ elements, value = .array elements := by
  induction fuel generalizing read text with
  | zero => cases h
  | succ fuel ih =>
    unfold readElements at h
    split at h
    · cases h
    · split at h
      · exact ih h
      · cases h
        exact ⟨_, rfl⟩
      · cases h

/-- What the reader gives with some fuel: a value, or an object whose first members were read
before. -/
theorem fitsWords_read (fuel : Nat) :
    (∀ {text value rest}, readValue fuel text = .ok (value, rest) → FitsWords value) ∧
    ∀ {read text value rest}, readMembers fuel read text = .ok (value, rest) →
      (∀ member ∈ read, FitsWords member.2) → FitsWords value := by
  induction fuel with
  | zero =>
    constructor
    · intro text value rest h
      cases h
    · intro read text value rest h
      cases h
  | succ fuel ih =>
    obtain ⟨ihValue, ihMembers⟩ := ih
    constructor
    · intro text value rest h
      unfold readValue at h
      split at h
      · split at h
        · cases h
          exact fitsWords_object (by simp)
        · exact ihMembers h (by simp)
      · split at h
        · cases h
          exact fitsWords_leaf (fun _ => Json.noConfusion) fun _ => Json.noConfusion
        · obtain ⟨elements, rfl⟩ := readElements_array h
          exact fitsWords_leaf (fun _ => Json.noConfusion) fun _ => Json.noConfusion
      · obtain ⟨read, -, hvalue⟩ := map_eq_ok.mp h
        cases hvalue
        exact fitsWords_leaf (fun _ => Json.noConfusion) fun _ => Json.noConfusion
      · exact fitsWords_readPlain h
    · intro read text value rest h hread
      unfold readMembers at h
      split at h
      · cases h
      · split at h
        · cases h
        · next name _ _ _ member _ hmember =>
          have hall : ∀ entry ∈ (name, member) :: read, FitsWords entry.2 := by
            intro entry hentry
            obtain rfl | hentry := List.mem_cons.mp hentry
            · exact ihValue hmember
            · exact hread entry hentry
          split at h
          · exact ihMembers h hall
          · cases h
            exact fitsWords_object fun entry hentry => hall entry (List.mem_reverse.mp hentry)
          · cases h

/-- **The whole numbers of a text have 64 bits.** -/
theorem fitsWords_parse {text : Bytes} {tree : Json} (h : parse text = .ok tree) :
    FitsWords tree := by
  unfold parse at h
  split at h
  · cases h
  · next read _ hread =>
    split at h
    · cases h
      exact (fitsWords_read _).1 hread
    · cases h

end Json

namespace Config

/-! ## 5. What is accepted -/

/-- The word of the payload size is as wide as the numbers of a document: what is cut to a size in
range was one. -/
theorem holds_of_admits_size {n : Int}
    (hfits : -9223372036854775808 ≤ n ∧ n < 18446744073709551616)
    (h : NumberKey.size.Admits (Word.uint64.keep n)) : Word.uint64.Holds n := by
  simp only [NumberKey.Admits, Word.keep, Word.least, Word.numbers] at h
  simp only [Word.Holds, Word.least, Word.numbers]
  omega

/-- **A document is accepted by what is kept of its numbers.**  An accepted document gives, for
each number in it, what the word of its key keeps; this is in range, and it is the number of the
document exactly if that fits the word.  The numbers accepted under a key are those of which a
number in range is kept.  A payload size is always kept as it is written. -/
theorem numbers_are_admitted_as_kept (key : NumberKey) (n : Int) :
    (∀ tree config, ofJson tree = .ok config → tree.at? key.place = some (.integer n) →
      key.value config = key.word.keep n ∧ key.Admits (key.value config) ∧
        (key.value config = n ↔ key.word.Holds n) ∧ (key.word.Holds n → key.Admits n)) ∧
    ((∃ tree config, ofJson tree = .ok config ∧ tree.at? key.place = some (.integer n)) ↔
      key.Admits (key.word.keep n)) ∧
    ∀ text config, ofText text = .ok config → ∃ tree, Json.parse text = .ok tree ∧
      ofJson tree = .ok config ∧ tree.FitsWords ∧
      (key = .size → tree.at? key.place = some (.integer n) →
        key.value config = n ∧ key.Admits n) := by
  refine ⟨?_, ?_, ?_⟩
  · intro tree config h hn
    obtain ⟨hdescribes, hvalid⟩ := ofJson_eq_ok.mp h
    have hkept := NumberKey.value_of_describes hdescribes hn
    have hadmits := NumberKey.admits_value (validate_iff_inRange.mp hvalid) key
    have hholds : key.value config = n ↔ key.word.Holds n := by
      rw [hkept]
      exact key.word.keep_eq_self_iff n
    refine ⟨hkept, hadmits, hholds, ?_⟩
    intro hfits
    rwa [hholds.mpr hfits] at hadmits
  · constructor
    · rintro ⟨tree, config, h, hn⟩
      obtain ⟨hdescribes, hvalid⟩ := ofJson_eq_ok.mp h
      rw [← NumberKey.value_of_describes hdescribes hn]
      exact NumberKey.admits_value (validate_iff_inRange.mp hvalid) key
    · intro hadmits
      refine ⟨key.document n, key.alone n, ofJson_eq_ok.mpr ⟨key.describes_document n, ?_⟩,
        key.at?_document n⟩
      exact validate_iff_inRange.mpr (NumberKey.inRange_alone hadmits)
  · intro text config h
    unfold ofText at h
    split at h
    · cases h
    · next tree htree =>
      have hfits := Json.fitsWords_parse htree
      refine ⟨tree, htree, h, hfits, ?_⟩
      rintro rfl hn
      obtain ⟨hdescribes, hvalid⟩ := ofJson_eq_ok.mp h
      have hkept := NumberKey.value_of_describes hdescribes hn
      have hadmits := NumberKey.admits_value (validate_iff_inRange.mp hvalid) .size
      have hn' : Word.uint64.keep n = n :=
        (Word.keep_eq_self_iff _ n).mpr (holds_of_admits_size (hfits _ n hn) (hkept ▸ hadmits))
      have hsize : NumberKey.size.value config = n := hkept.trans hn'
      exact ⟨hsize, hsize ▸ hadmits⟩

/-- A number of rounds that fits its word is kept, as the one of this document. -/
theorem numbers_are_admitted_as_kept_of_count :
    ofJson (NumberKey.count.document 7) = .ok { count := 7 } ∧
      NumberKey.count.value { count := 7 } = 7 ∧ NumberKey.count.Admits 7 := by
  have hread : ofJson (NumberKey.count.document 7) = .ok { count := 7 } := rfl
  have hfits : Word.uint32.Holds 7 := ⟨by decide, by decide⟩
  obtain ⟨-, -, hvalue, hadmits⟩ :=
    (numbers_are_admitted_as_kept .count 7).1 (NumberKey.count.document 7) _ hread rfl
  exact ⟨hread, hvalue.mpr hfits, hadmits hfits⟩

/-- A document with a time to live far out of its range. -/
def farTtl : Bytes := "\x7b\"ping\":\x7b\"ttl\":4294967301\x7d\x7d".toUTF8.toList

/-- A number out of range under each key but the payload size, of which one in range is kept. -/
def NumberKey.far : NumberKey → Int
  | logLevel => 4294967296
  | count => -1
  | interval => -4294967295
  | size => 0
  | timeout => -4294967295
  | ttl => 4294967301
  | ident => 4294967295
  | sendLimit => -1
  | sendBuffer => -4294967296
  | receiveBuffer => -4294967296

/-- **Numbers out of range are cut into range.**  A text with a time to live of 4294967301 is
accepted and gives one of 5; and every key but the payload size has such a document. -/
theorem cut_into_range :
    (∃ tree, Json.parse farTtl = .ok tree ∧
      tree.at? NumberKey.ttl.place = some (.integer 4294967301) ∧
      ¬NumberKey.ttl.Admits 4294967301 ∧ ofText farTtl = .ok { ping := { ttl := 5 } }) ∧
    ∀ key, key ≠ NumberKey.size → ∃ config, ofJson (key.document key.far) = .ok config ∧
      ¬key.Admits key.far ∧ key.value config ≠ key.far := by
  constructor
  · exact ⟨_, by cbv, rfl, by simp [NumberKey.Admits], by cbv⟩
  · intro key hsize
    cases key with
    | size => exact absurd rfl hsize
    | _ => exact ⟨_, rfl, by simp [NumberKey.Admits, NumberKey.far], by decide⟩

end Config

end IcmpEcho
