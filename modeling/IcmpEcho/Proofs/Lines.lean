/-
# The lines of the service

For each ping that ends the service writes one line.  There are three kinds of them: a line tells of
a reply, of a timeout or of another error.  The kind can be read off the text (`LineKind.of?`): a
line begins with a number of bytes, with a request or with an address, and goes on in a way of its
own.  So no line is of two kinds.

**The line for a ping that ended is of the kind that its code has** (`Target.kind_resultLine`).  What
is needed for it is that an address is written without a space, so that the first word of a line is
what it seems (`Address.space_not_mem_toText`).
-/
import IcmpEcho.Engine.Serving

namespace IcmpEcho

/-! ## 1. Kinds -/

/-- What a line tells of. -/
inductive LineKind
  | reply
  | timeout
  | error
  deriving DecidableEq, Repr

namespace LineKind

/-- What a ping that ended with a code is to be reported as. -/
def ofCode (code : ErrorCode) : LineKind :=
  if code = PingFault.timeout.code then .timeout else if code.isError then .error else .reply

/-- The kind of a line: its first word and how it goes on tell. -/
def of? (line : String) : Option LineKind :=
  let word := line.toList.takeWhile (· ≠ ' ')
  let rest := line.toList.dropWhile (· ≠ ' ')
  if word.all Char.isDigit ∧ " bytes from ".toList <+: rest then some .reply
  else if word = "Request".toList ∧ " timeout for icmp_seq ".toList <+: rest then some .timeout
  else if word.getLast? = some ':' ∧ " icmp_seq=".toList <+: rest then some .error
  else none

theorem ofCode_eq_reply_iff {code : ErrorCode} : ofCode code = .reply ↔ code.isError = false := by
  unfold ofCode
  split
  · next htimeout =>
    rw [htimeout]
    decide
  · split <;> simp_all

/-! ## 2. The first word -/

/-- A text is cut at its first space. -/
theorem cut {word : List Char} (hword : ' ' ∉ word) (rest : List Char) :
    (word ++ ' ' :: rest).takeWhile (· ≠ ' ') = word ∧
      (word ++ ' ' :: rest).dropWhile (· ≠ ' ') = ' ' :: rest := by
  have hletters : ∀ c ∈ word, decide (c ≠ ' ') = true := by
    rintro c hmem
    exact decide_eq_true fun heq => hword (heq ▸ hmem)
  rw [List.takeWhile_append_of_pos hletters, List.dropWhile_append_of_pos hletters]
  simp

end LineKind

/-! ## 3. Numbers and addresses have no spaces -/

theorem isDigit_of_mem_toString {n : Nat} {c : Char} (h : c ∈ (toString n).toList) : c.isDigit := by
  rw [Nat.toString_eq_repr, Nat.toList_repr] at h
  exact Nat.isDigit_of_mem_toDigits (by decide) (by decide) h

theorem space_not_mem_toString (n : Nat) : ' ' ∉ (toString n).toList := fun h =>
  absurd (isDigit_of_mem_toString h) (by decide)

theorem space_not_mem_toDigits (n : Nat) : ' ' ∉ Nat.toDigits 16 n := by
  induction n using Nat.strongRecOn with
  | ind n ih =>
    have hdigit : ∀ d : Nat, ' ' ≠ d.digitChar := fun d => by simp
    rw [Nat.toDigits_eq_if (by decide)]
    split
    · simp
    · next hbig =>
      simp only [List.mem_append, List.mem_singleton, not_or]
      exact ⟨ih (n / 16) (Nat.div_lt_self (by omega) (by decide)), hdigit _⟩

/-- Texts without spaces are joined without spaces. -/
theorem space_not_mem_intercalate {separator : String} (hseparator : ' ' ∉ separator.toList) :
    ∀ {texts : List String}, (∀ text ∈ texts, ' ' ∉ text.toList) →
      ' ' ∉ (separator.intercalate texts).toList
  | [], _ => by simp
  | [text], h => by simpa using h
  | text :: next :: texts, h => by
    rw [String.intercalate_cons_cons]
    simp only [String.toList_append, List.mem_append, not_or]
    exact ⟨⟨h text List.mem_cons_self, hseparator⟩,
      space_not_mem_intercalate hseparator fun other hmem => h other (List.mem_cons_of_mem _ hmem)⟩

namespace Address

theorem space_not_mem_quadText (octets : Bytes) : ' ' ∉ (quadText octets).toList := by
  refine space_not_mem_intercalate (by decide) fun text hmem => ?_
  obtain ⟨octet, -, rfl⟩ := List.mem_map.1 hmem
  exact space_not_mem_toString _

theorem space_not_mem_groupsText (groups : List UInt16) : ' ' ∉ (groupsText groups).toList := by
  refine space_not_mem_intercalate (by decide) fun text hmem => ?_
  obtain ⟨group, -, rfl⟩ := List.mem_map.1 hmem
  rw [groupText, String.toList_ofList]
  exact space_not_mem_toDigits _

/-- **An address is written without spaces.** -/
theorem space_not_mem_toText (address : Address) : ' ' ∉ address.toText.toList := by
  have hgap : ' ' ∉ "::".toList := by decide
  have hmapped : ' ' ∉ "ffff:".toList := by decide
  cases address with
  | v4 bits => exact space_not_mem_quadText _
  | v6 bits =>
    unfold toText textV6
    dsimp only
    split
    · exact space_not_mem_groupsText _
    · simp only [String.toList_append, List.mem_append, not_or]
      refine ⟨⟨space_not_mem_groupsText _, hgap⟩, ?_⟩
      split
      · exact space_not_mem_quadText _
      · split
        · simp only [String.toList_append, List.mem_append, not_or]
          exact ⟨hmapped, space_not_mem_quadText _⟩
        · exact space_not_mem_groupsText _

end Address

/-! ## 4. The line for a ping that ended -/

namespace LineKind

/-- A line that begins with a number of bytes tells of a reply. -/
theorem of?_reply (size : Nat) (text : String) :
    of? (toString size ++ (" bytes from " ++ text)) = some .reply := by
  have hline : (toString size ++ (" bytes from " ++ text)).toList
      = (toString size).toList ++ ' ' :: ("bytes from ".toList ++ text.toList) := by
    simp [String.toList_append]
  obtain ⟨hword, hrest⟩ := cut (space_not_mem_toString size)
    ("bytes from ".toList ++ text.toList)
  have hdigits : (toString size).toList.all Char.isDigit :=
    List.all_eq_true.2 fun c hmem => isDigit_of_mem_toString hmem
  simp only [of?, hline, hword, hrest]
  rw [if_pos ⟨hdigits, List.prefix_append _ _⟩]

/-- A line that begins with a request tells of a timeout. -/
theorem of?_timeout (text : String) :
    of? ("Request timeout for icmp_seq " ++ text) = some .timeout := by
  have hline : ("Request timeout for icmp_seq " ++ text).toList
      = "Request".toList ++ ' ' :: ("timeout for icmp_seq ".toList ++ text.toList) := by
    simp [String.toList_append]
  have hspace : ' ' ∉ "Request".toList := by decide
  obtain ⟨hword, hrest⟩ := cut hspace ("timeout for icmp_seq ".toList ++ text.toList)
  simp only [of?, hline, hword, hrest]
  rw [if_neg fun h => absurd h.1 (by decide), if_pos ⟨trivial, List.prefix_append _ _⟩]

/-- A line that begins with an address tells of another error. -/
theorem of?_error (address : Address) (text : String) :
    of? (address.toText ++ (": icmp_seq=" ++ text)) = some .error := by
  have hline : (address.toText ++ (": icmp_seq=" ++ text)).toList
      = (address.toText.toList ++ [':']) ++ ' ' :: ("icmp_seq=".toList ++ text.toList) := by
    simp [String.toList_append]
  have hspace : ' ' ∉ address.toText.toList ++ [':'] := by
    simpa using address.space_not_mem_toText
  obtain ⟨hword, hrest⟩ := cut hspace ("icmp_seq=".toList ++ text.toList)
  have hlast : (address.toText.toList ++ [':']).getLast? = some ':' := List.getLast?_concat
  simp only [of?, hline, hword, hrest]
  rw [if_neg, if_neg, if_pos ⟨hlast, List.prefix_append _ _⟩]
  · rintro ⟨hrequest, -⟩
    rw [hrequest] at hlast
    exact absurd hlast (by decide)
  · rintro ⟨hdigits, -⟩
    have hcolon : Char.isDigit ':' := List.all_eq_true.1 hdigits ':' (by simp)
    exact absurd hcolon (by decide)

end LineKind

/-- **The line for a ping that ended is of the kind that its code has**, if whoever was told of no
error was told of a reply. -/
theorem Target.kind_resultLine (target : Target) {code : ErrorCode} {result : PingResult}
    (hreplied : code.isError = false → result.reply.isSome) :
    LineKind.of? (target.resultLine code result) = some (LineKind.ofCode code) := by
  unfold resultLine
  split
  · next reply hok hreply =>
    rw [LineKind.ofCode_eq_reply_iff.2 hok]
    simp only [String.append_assoc]
    exact LineKind.of?_reply _ _
  · next hnoReply =>
    have herror : code.isError = true := by
      cases hok : code.isError with
      | true => rfl
      | false =>
        obtain ⟨reply, hreply⟩ := Option.isSome_iff_exists.1 (hreplied hok)
        exact (hnoReply reply hok hreply).elim
    rw [LineKind.ofCode, if_pos herror]
    simp only [String.append_assoc]
    split
    · exact LineKind.of?_timeout _
    · exact LineKind.of?_error _ _

end IcmpEcho
