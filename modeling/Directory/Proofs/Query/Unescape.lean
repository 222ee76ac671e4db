import Directory.Proofs.Query.Escape

/-!
# Reading escapes back

An escaped text tells what was escaped. Its only reserved character is the backslash, each backslash
begins an escape, and with the escapes read back it is the text from before (`escape_reads_back`).
For this the backslash must be escaped first: an escape that is already there would otherwise have
its own backslash escaped.
-/

namespace Directory

/-! ## Reading -/

/-- The number that a hexadecimal digit stands for, in lower or upper case. -/
def hexValue? (c : Char) : Option Nat :=
  if '0' ≤ c ∧ c ≤ '9' then some (c.toNat - 0x30)
  else if 'a' ≤ c ∧ c ≤ 'f' then some (c.toNat - 0x57)
  else if 'A' ≤ c ∧ c ≤ 'F' then some (c.toNat - 0x37)
  else none

/-- The number that two hexadecimal digits stand for. -/
def hexPair? (high low : Char) : Option Nat :=
  match hexValue? high, hexValue? low with
  | some h, some l => some (16 * h + l)
  | _, _ => none

/-- A text with every escape in it replaced by the character that it stands for. All else stands for
itself. -/
def unescapeChars : List Char → List Char
  | '\\' :: high :: low :: rest =>
    match hexPair? high low with
    | some n => Char.ofNat n :: unescapeChars rest
    | none => '\\' :: unescapeChars (high :: low :: rest)
  | c :: cs => c :: unescapeChars cs
  | [] => []

/-- The bytes that a text stands for in which there is nothing but escapes. -/
def unescapeBytes : List Char → Option (List UInt8)
  | [] => some []
  | '\\' :: high :: low :: rest =>
    match hexPair? high low with
    | some n => (unescapeBytes rest).map (UInt8.ofNat n :: ·)
    | none => none
  | _ :: _ => none

/-- Each backslash is followed by two hexadecimal digits. -/
def BackslashesEscape (cs : List Char) : Prop :=
  ∀ before after, cs = before ++ '\\' :: after →
    ∃ high low rest, after = high :: low :: rest ∧ (hexPair? high low).isSome

theorem unescapeChars_cons {c : Char} (h : c ≠ '\\') (cs : List Char) :
    unescapeChars (c :: cs) = c :: unescapeChars cs := by
  rw [unescapeChars]
  rintro high low rest rfl
  exact absurd rfl h

theorem escapeCode_eq (n : Nat) :
    escapeCode n = ['\\', hexDigit (n / 16 % 16), hexDigit (n % 16)] :=
  rfl

theorem hexPair?_hexDigit {n : Nat} (h : n < 256) :
    hexPair? (hexDigit (n / 16 % 16)) (hexDigit (n % 16)) = some n := by
  have hdigit : ∀ m < 16, hexValue? (hexDigit m) = some m := by decide
  rw [hexPair?, hdigit _ (Nat.mod_lt _ (by decide)), hdigit _ (Nat.mod_lt _ (by decide))]
  dsimp only
  congr 1
  omega

/-! ## The order of the replacements -/

/-- The characters that are escaped, in the order in which they are replaced. -/
def reservedChars : List Char :=
  ['\\', '*', '(', ')', '\x00']

/-- A text with every occurrence of one character replaced by its escape. -/
def escapeEach (reserved : Char) (cs : List Char) : List Char :=
  cs.flatMap fun c => if c = reserved then escapeCode c.toNat else [c]

/-- A text with one character after the other replaced by its escape. -/
def escapeInTurn (reserved : List Char) (cs : List Char) : List Char :=
  reserved.foldl (fun cs reserved => escapeEach reserved cs) cs

theorem mem_reservedChars_iff {c : Char} : c ∈ reservedChars ↔ isReserved c = true := by
  simp [reservedChars, isReserved, or_assoc]

theorem escapeInTurn_append (reserved cs ds : List Char) :
    escapeInTurn reserved (cs ++ ds) = escapeInTurn reserved cs ++ escapeInTurn reserved ds := by
  induction reserved generalizing cs ds with
  | nil => rfl
  | cons c reserved ih =>
      have hone : escapeEach c (cs ++ ds) = escapeEach c cs ++ escapeEach c ds :=
        List.flatMap_append
      show escapeInTurn reserved (escapeEach c (cs ++ ds)) = _
      rw [hone, ih]
      rfl

/-- A character that is not replaced stays as it is. -/
theorem escapeInTurn_of_not_mem {reserved : List Char} {c : Char} (h : c ∉ reserved) :
    escapeInTurn reserved [c] = [c] := by
  induction reserved with
  | nil => rfl
  | cons d reserved ih =>
      rw [List.mem_cons, not_or] at h
      have hone : escapeEach d [c] = [c] := by simp [escapeEach, h.1]
      show escapeInTurn reserved (escapeEach d [c]) = [c]
      rw [hone, ih h.2]

/-- Replacing the backslash first and the other characters after it escapes each character of the
text once. -/
theorem escapeInTurn_reservedChars (cs : List Char) :
    escapeInTurn reservedChars cs = escapeChars cs := by
  induction cs with
  | nil => rfl
  | cons c cs ih =>
      have hone : escapeInTurn reservedChars [c] =
          if isReserved c then escapeCode c.toNat else [c] := by
        split
        next hreserved =>
          have hall : ∀ c ∈ reservedChars,
              escapeInTurn reservedChars [c] = escapeCode c.toNat := by
            simp [reservedChars, escapeInTurn, escapeEach, escapeCode, hexDigits, hexDigit]
          exact hall c (mem_reservedChars_iff.2 hreserved)
        next hplain => exact escapeInTurn_of_not_mem fun h => hplain (mem_reservedChars_iff.1 h)
      rw [← List.singleton_append, escapeInTurn_append, hone, ih]
      rfl

-- the backslash of an escape that is already there would be escaped again
example : unescapeChars (escapeInTurn ['*', '\\'] ['*']) = ['\\', '2', 'a'] := by decide +kernel

/-! ## Escaped texts -/

/-- A row of escapes and of characters that need none. -/
inductive IsEscaped : List Char → Prop
  | nil : IsEscaped []
  | escape {n : Nat} {rest : List Char} (hn : n < 256) (hrest : IsEscaped rest) :
      IsEscaped (escapeCode n ++ rest)
  | plain {c : Char} {rest : List Char} (hc : isReserved c = false) (hrest : IsEscaped rest) :
      IsEscaped (c :: rest)

theorem toNat_lt_of_isReserved {c : Char} (h : isReserved c = true) : c.toNat < 256 := by
  have hall : ∀ c ∈ reservedChars, c.toNat < 256 := by simp [reservedChars]
  exact hall c (mem_reservedChars_iff.2 h)

theorem escapeChars_cons (c : Char) (cs : List Char) :
    escapeChars (c :: cs) =
      (if isReserved c then escapeCode c.toNat else [c]) ++ escapeChars cs :=
  List.flatMap_cons

theorem isEscaped_escapeChars (cs : List Char) : IsEscaped (escapeChars cs) := by
  induction cs with
  | nil => exact .nil
  | cons c cs ih =>
      rw [escapeChars_cons]
      split
      next hreserved => exact .escape (toNat_lt_of_isReserved hreserved) ih
      next hplain => exact .plain (by simpa using hplain) ih

namespace IsEscaped

variable {cs : List Char} (h : IsEscaped cs)
include h

/-- Of the characters that are escaped only the backslash is left. -/
theorem eq_backslash {c : Char} (hmem : c ∈ cs) (hc : isReserved c = true) : c = '\\' := by
  have hdigit : ∀ m < 16, isReserved (hexDigit m) = false := by decide
  have hnot {m : Nat} (hm : m < 16) : c ≠ hexDigit m := by
    rintro rfl
    exact Bool.noConfusion ((hdigit m hm).symm.trans hc)
  induction h with
  | nil => cases hmem
  | @escape n rest hn hrest ih =>
      rw [escapeCode_eq] at hmem
      simp only [List.cons_append, List.nil_append, List.mem_cons] at hmem
      obtain heq | hhigh | hlow | hmem := hmem
      · exact heq
      · exact absurd hhigh (hnot (Nat.mod_lt _ (by decide)))
      · exact absurd hlow (hnot (Nat.mod_lt _ (by decide)))
      · exact ih hmem
  | plain hplain hrest ih =>
      obtain rfl | hmem := List.mem_cons.1 hmem
      · exact Bool.noConfusion (hplain.symm.trans hc)
      · exact ih hmem

theorem backslashesEscape : BackslashesEscape cs := by
  have hdigit : ∀ m < 16, hexDigit m ≠ '\\' := by decide
  induction h with
  | nil => exact fun before after heq => by cases before <;> cases heq
  | @escape n rest hn hrest ih =>
      intro before after heq
      rw [escapeCode_eq] at heq
      -- the backslash is the one of the escape, or stands after its digits
      match before with
      | [] =>
          cases heq
          exact ⟨_, _, rest, rfl, by rw [hexPair?_hexDigit hn]; rfl⟩
      | [_] =>
          injection heq with _ heq
          injection heq with heq
          exact absurd heq (hdigit _ (Nat.mod_lt _ (by decide)))
      | [_, _] =>
          injection heq with _ heq
          injection heq with _ heq
          injection heq with heq
          exact absurd heq (hdigit _ (Nat.mod_lt _ (by decide)))
      | _ :: _ :: _ :: before =>
          injection heq with _ heq
          injection heq with _ heq
          injection heq with _ heq
          exact ih before after heq
  | plain hplain hrest ih =>
      intro before after heq
      cases before with
      | nil =>
          cases heq
          cases hplain
      | cons _ before =>
          injection heq with _ heq
          exact ih before after heq

end IsEscaped

/-! ## What is read back -/

theorem unescapeChars_escapeCode {n : Nat} (h : n < 256) (rest : List Char) :
    unescapeChars (escapeCode n ++ rest) = Char.ofNat n :: unescapeChars rest := by
  rw [escapeCode_eq]
  show unescapeChars ('\\' :: _ :: _ :: rest) = _
  rw [unescapeChars, hexPair?_hexDigit h]

theorem unescapeChars_escapeChars (cs : List Char) : unescapeChars (escapeChars cs) = cs := by
  induction cs with
  | nil => rfl
  | cons c cs ih =>
      rw [escapeChars_cons]
      split
      next hreserved =>
        rw [unescapeChars_escapeCode (toNat_lt_of_isReserved hreserved), Char.ofNat_toNat, ih]
      next hplain =>
        have hne : c ≠ '\\' := (isReserved_eq_false_iff.1 (by simpa using hplain)).1
        rw [List.singleton_append, unescapeChars_cons hne, ih]

theorem unescapeBytes_escapeBytes (bs : List UInt8) :
    unescapeBytes (escapeBytes bs) = some bs := by
  induction bs with
  | nil => rfl
  | cons b bs ih =>
      show unescapeBytes (escapeCode b.toNat ++ escapeBytes bs) = _
      rw [escapeCode_eq]
      show unescapeBytes ('\\' :: _ :: _ :: escapeBytes bs) = _
      rw [unescapeBytes, hexPair?_hexDigit b.toNat_lt]
      dsimp only
      rw [ih, Option.map_some, UInt8.ofNat_toNat]

theorem escape_str (s : String) :
    escape (.str s) = .ok (String.ofList (escapeChars s.toList)) := by
  have htext : (Value.str s).text = .ok s := by
    unfold Value.text
    rfl
  simp [escape, htext, bind, Except.bind, pure, Except.pure]

/-- Escaping replaces the backslash, the asterisk, the parentheses and NUL in turn, and leaves none
of them but backslashes that begin an escape. With the escapes read back there is the text again,
and where bytes were escaped there are the bytes. So no two texts are escaped alike, and no two
strings of bytes. -/
theorem escape_reads_back :
    (∀ s : String, ∃ escaped, escape (.str s) = .ok escaped ∧
      escaped.toList = escapeInTurn ['\\', '*', '(', ')', '\x00'] s.toList ∧
      '*' ∉ escaped.toList ∧ '(' ∉ escaped.toList ∧ ')' ∉ escaped.toList ∧
      '\x00' ∉ escaped.toList ∧ BackslashesEscape escaped.toList ∧
      unescapeChars escaped.toList = s.toList) ∧
    (∀ bs : List UInt8, ∃ escaped, escape (.bytes bs) = .ok escaped ∧
      unescapeBytes escaped.toList = some bs) ∧
    (Function.Injective fun s : String => escape (.str s)) ∧
    Function.Injective fun bs : List UInt8 => escape (.bytes bs) := by
  refine ⟨fun s => ?_, fun bs => ?_, fun s t h => ?_, fun bs cs h => ?_⟩
  · have hescaped := isEscaped_escapeChars s.toList
    refine ⟨_, escape_str s, ?_⟩
    rw [String.toList_ofList]
    have hnot {c : Char} (hc : isReserved c = true) (hne : c ≠ '\\') :
        c ∉ escapeChars s.toList := fun hmem => hne (hescaped.eq_backslash hmem hc)
    exact ⟨(escapeInTurn_reservedChars s.toList).symm, hnot rfl (by decide), hnot rfl (by decide),
      hnot rfl (by decide), hnot rfl (by decide), hescaped.backslashesEscape,
      unescapeChars_escapeChars s.toList⟩
  · refine ⟨_, rfl, ?_⟩
    rw [String.toList_ofList]
    exact unescapeBytes_escapeBytes bs
  · dsimp only at h
    rw [escape_str, escape_str, Except.ok.injEq, String.ofList_inj] at h
    have hread := congrArg unescapeChars h
    rwa [unescapeChars_escapeChars, unescapeChars_escapeChars, String.toList_inj] at hread
  · have hread := congrArg unescapeBytes (String.ofList_inj.1 (Except.ok.inj h))
    rw [unescapeBytes_escapeBytes, unescapeBytes_escapeBytes] at hread
    exact Option.some.inj hread

end Directory
