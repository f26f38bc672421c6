import Mathlib.Data.List.Basic

/-!
# JSON of strings and objects

What `JSON.stringify` writes for values made of strings and objects, and a
reader of the grammar without white space. A text is a list of characters;
strings are well-formed Unicode, so that no surrogate stands alone.

* `readValue_text` — the reader takes exactly the text of a value off the
  front of any text.
* `parse_text` — so a text is read back as the value it was written for,
  whatever its strings hold.
-/

namespace Json

/-! ## Strings -/

def hexDigit (n : Nat) : Char := if n < 10 then Char.ofNat (48 + n) else Char.ofNat (87 + n)

def hexValue (c : Char) : Option Nat :=
  if 48 ≤ c.toNat ∧ c.toNat ≤ 57 then some (c.toNat - 48)
  else if 97 ≤ c.toNat ∧ c.toNat ≤ 102 then some (c.toNat - 87)
  else if 65 ≤ c.toNat ∧ c.toNat ≤ 70 then some (c.toNat - 55)
  else none

/-- One character of a string. -/
def escape (c : Char) : List Char :=
  if c.toNat = 0x08 then ['\\', 'b']
  else if c.toNat = 0x09 then ['\\', 't']
  else if c.toNat = 0x0A then ['\\', 'n']
  else if c.toNat = 0x0C then ['\\', 'f']
  else if c.toNat = 0x0D then ['\\', 'r']
  else if c = '"' then ['\\', '"']
  else if c = '\\' then ['\\', '\\']
  else if c.toNat < 0x20 then
    ['\\', 'u', '0', '0', hexDigit (c.toNat / 16), hexDigit (c.toNat % 16)]
  else [c]

def quote (s : List Char) : List Char := '"' :: (s.flatMap escape ++ ['"'])

/-- The character of a short escape. -/
def unescape (c : Char) : Option Char :=
  if c = 'b' then some (Char.ofNat 0x08)
  else if c = 't' then some (Char.ofNat 0x09)
  else if c = 'n' then some (Char.ofNat 0x0A)
  else if c = 'f' then some (Char.ofNat 0x0C)
  else if c = 'r' then some (Char.ofNat 0x0D)
  else if c = '"' ∨ c = '\\' ∨ c = '/' then some c
  else none

/-- A string behind its opening quotation mark, and what follows it. -/
def readChars : List Char → Option (List Char × List Char)
  | [] => none
  | '\\' :: 'u' :: a :: b :: c :: d :: rest => do
    let n := (← hexValue a) * 4096 + (← hexValue b) * 256 + (← hexValue c) * 16 + (← hexValue d)
    let (s, rest) ← readChars rest
    if n.isValidChar then some (Char.ofNat n :: s, rest) else none
  | '\\' :: c :: rest => do
    let c ← unescape c
    let (s, rest) ← readChars rest
    some (c :: s, rest)
  | c :: rest =>
    if c = '"' then some ([], rest)
    else if c = '\\' ∨ c.toNat < 0x20 then none
    else (readChars rest).map fun r => (c :: r.1, r.2)

theorem hexValue_hexDigit {n : Nat} (h : n < 16) : hexValue (hexDigit n) = some n := by
  have hall : ∀ n < 16, hexValue (hexDigit n) = some n := by decide
  exact hall n h

theorem readChars_short {c : Char} (hc : c ≠ 'u') (rest : List Char) :
    readChars ('\\' :: c :: rest) = (unescape c).bind fun c =>
      (readChars rest).map fun r => (c :: r.1, r.2) := by
  rw [readChars.eq_3 c rest (by simpa using fun _ _ _ _ _ h _ => hc h)]
  cases unescape c <;> cases readChars rest <;> rfl

theorem readChars_long {x y : Char} {m n : Nat} (hx : hexValue x = some m)
    (hy : hexValue y = some n) (h : (m * 16 + n).isValidChar) (rest : List Char) :
    readChars ('\\' :: 'u' :: '0' :: '0' :: x :: y :: rest) =
      (readChars rest).map fun r => (Char.ofNat (m * 16 + n) :: r.1, r.2) := by
  have h0 : hexValue '0' = some 0 := by decide
  rw [readChars, h0, hx, hy]
  cases readChars rest with
  | none => rfl
  | some r => simp [h]

theorem readChars_plain {c : Char} (h : c ≠ '"') (h' : c ≠ '\\') (hc : 0x20 ≤ c.toNat)
    (rest : List Char) :
    readChars (c :: rest) = (readChars rest).map fun r => (c :: r.1, r.2) := by
  rw [readChars, if_neg h, if_neg (by simp [h']; omega)]
  all_goals simp [h']

/-- What is written for one character is read as that character. -/
theorem readChars_escape (c : Char) (rest : List Char) :
    readChars (escape c ++ rest) = (readChars rest).map fun r => (c :: r.1, r.2) := by
  have hof : ∀ n, c.toNat = n → c = Char.ofNat n := by
    rintro n rfl
    exact (Char.ofNat_toNat c).symm
  unfold escape
  split_ifs with h8 h9 hA hC hD hq hb hlow
  · rw [hof _ h8]
    exact readChars_short (by decide) rest
  · rw [hof _ h9]
    exact readChars_short (by decide) rest
  · rw [hof _ hA]
    exact readChars_short (by decide) rest
  · rw [hof _ hC]
    exact readChars_short (by decide) rest
  · rw [hof _ hD]
    exact readChars_short (by decide) rest
  · rw [hq]
    exact readChars_short (by decide) rest
  · rw [hb]
    exact readChars_short (by decide) rest
  · -- a control character without an escape of its own
    have hvalue : c.toNat / 16 * 16 + c.toNat % 16 = c.toNat := by omega
    have hread := readChars_long (hexValue_hexDigit (n := c.toNat / 16) (by omega))
      (hexValue_hexDigit (n := c.toNat % 16) (by omega))
      (by rw [hvalue]; exact c.valid) rest
    rw [hvalue, Char.ofNat_toNat] at hread
    exact hread
  · exact readChars_plain hq hb (by omega) rest

/-- A string is read up to its own closing quotation mark. -/
theorem readChars_quote (s rest : List Char) :
    readChars (s.flatMap escape ++ '"' :: rest) = some (s, rest) := by
  induction s with
  | nil => simp [readChars]
  | cons c s ih =>
    rw [List.flatMap_cons, List.append_assoc, readChars_escape, ih]
    rfl

/-! ## Values -/

mutual

inductive Value
  | str (s : List Char)
  | obj (members : Members)

/-- The members of an object, in their order. -/
inductive Members
  | nil
  | cons (key : List Char) (value : Value) (rest : Members)

end

mutual

/-- `JSON.stringify`. -/
def Value.text : Value → List Char
  | .str s => quote s
  | .obj members => '\x7b' :: (members.text ++ ['\x7d'])

def Members.text : Members → List Char
  | .nil => []
  | .cons key value .nil => quote key ++ ':' :: value.text
  | .cons key value rest => quote key ++ ':' :: (value.text ++ ',' :: rest.text)

end

/-- Take the character `c` off the front. -/
def expect (c : Char) : List Char → Option (List Char)
  | [] => none
  | c' :: rest => if c' = c then some rest else none

mutual

/-- A value off the front of a text; `fuel` bounds the nesting and the number
of members together. -/
def readValue : Nat → List Char → Option (Value × List Char)
  | 0, _ => none
  | _ + 1, [] => none
  | fuel + 1, c :: rest =>
    if c = '"' then (readChars rest).map fun r => (.str r.1, r.2)
    else if c = '\x7b' then
      match expect '\x7d' rest with
      | some rest => some (.obj .nil, rest)
      | none => (readMembers fuel rest).map fun r => (.obj r.1, r.2)
    else none

/-- The members of an object up to its closing brace, one at least. -/
def readMembers : Nat → List Char → Option (Members × List Char)
  | 0, _ => none
  | fuel + 1, text => do
    let (key, text) ← readChars (← expect '"' text)
    let (value, text) ← readValue fuel (← expect ':' text)
    match expect '\x7d' text with
    | some text => some (.cons key value .nil, text)
    | none =>
      let (rest, text) ← readMembers fuel (← expect ',' text)
      some (.cons key value rest, text)

end

/-- `JSON.parse`, of a text that is one value and nothing more. -/
def parse (text : List Char) : Option Value :=
  match readValue (text.length + 1) text with
  | some (value, []) => some value
  | _ => none

mutual

def Value.size : Value → Nat
  | .str _ => 1
  | .obj members => members.size + 1

def Members.size : Members → Nat
  | .nil => 0
  | .cons _ value rest => value.size + rest.size + 1

end

mutual

theorem Value.size_le_text : ∀ v : Value, v.size ≤ v.text.length
  | .str s => by simp [Value.size, Value.text, quote]
  | .obj members => by
    have h := Members.size_le_text members
    simp only [Value.size, Value.text, List.length_cons, List.length_append]
    omega

theorem Members.size_le_text : ∀ m : Members, m.size ≤ m.text.length
  | .nil => Nat.le_refl 0
  | .cons key value .nil => by
    have h := Value.size_le_text value
    simp only [Members.size, Members.text, List.length_cons, List.length_append]
    omega
  | .cons key value (.cons key' value' rest) => by
    have h := Value.size_le_text value
    have h' := Members.size_le_text (.cons key' value' rest)
    simp only [Members.text, List.length_cons, List.length_append] at h' ⊢
    simp only [Members.size] at h' ⊢
    omega

end

theorem quote_append (s rest : List Char) :
    quote s ++ rest = '"' :: (s.flatMap escape ++ '"' :: rest) := by
  simp [quote]

theorem Members.text_cons_cons (key key' : List Char) (value value' : Value) (rest : Members) :
    (Members.cons key value (.cons key' value' rest)).text =
      quote key ++ ':' :: (value.text ++ ',' :: (Members.cons key' value' rest).text) := by
  rw [Members.text]
  simp

@[simp] theorem expect_self (c : Char) (rest : List Char) : expect c (c :: rest) = some rest :=
  if_pos rfl

/-- A member is read, and what stands behind it decides how to go on. -/
theorem readMembers_member {value : Value} {fuel : Nat} {rest : List Char}
    (h : readValue fuel (value.text ++ rest) = some (value, rest)) (key : List Char) :
    readMembers (fuel + 1) (quote key ++ ':' :: (value.text ++ rest)) =
      match expect '\x7d' rest with
      | some rest => some (.cons key value .nil, rest)
      | none => (expect ',' rest).bind fun rest =>
        (readMembers fuel rest).map fun r => (.cons key value r.1, r.2) := by
  rw [quote_append, readMembers, expect_self]
  dsimp only [bind, Option.bind]
  rw [readChars_quote]
  dsimp only
  rw [expect_self]
  dsimp only
  rw [h]
  dsimp only
  cases expect '\x7d' rest with
  | some rest => rfl
  | none =>
    cases expect ',' rest with
    | none => rfl
    | some rest => cases hmore : readMembers fuel rest <;> simp [hmore]

mutual

/-- The reader takes exactly the text of a value off the front. -/
theorem readValue_text : ∀ (v : Value) (fuel : Nat) (rest : List Char), v.size ≤ fuel →
    readValue fuel (v.text ++ rest) = some (v, rest)
  | .str s, fuel + 1, rest, _ => by
    rw [Value.text, quote_append, readValue, if_pos rfl, readChars_quote]
    rfl
  | .obj .nil, fuel + 1, rest, _ => by
    simp [Value.text, Members.text, readValue, expect]
  | .obj (.cons key value more), fuel + 1, rest, h => by
    have hmembers := readMembers_text (.cons key value more) fuel rest (by simp)
      (by simpa [Value.size] using h)
    -- the members begin with a quotation mark, and not with the closing brace
    obtain ⟨text, htext⟩ : ∃ text, (Members.cons key value more).text = '"' :: text := by
      cases more <;> exact ⟨_, rfl⟩
    rw [htext, List.cons_append] at hmembers
    rw [Value.text, htext, List.cons_append, List.append_assoc, readValue, if_neg (by decide),
      if_pos rfl]
    show (readMembers fuel ('"' :: (text ++ '\x7d' :: rest))).map _ = _
    rw [hmembers]
    rfl
  | .str _, 0, _, h => absurd h (by simp [Value.size])
  | .obj _, 0, _, h => absurd h (by simp [Value.size])

theorem readMembers_text : ∀ (m : Members) (fuel : Nat) (rest : List Char), m ≠ .nil →
    m.size ≤ fuel → readMembers fuel (m.text ++ '\x7d' :: rest) = some (m, rest)
  | .nil, _, _, h, _ => absurd rfl h
  | .cons key value .nil, fuel + 1, rest, _, h => by
    have hvalue := readValue_text value fuel ('\x7d' :: rest) (by
      simp only [Members.size] at h
      omega)
    rw [Members.text, List.append_assoc, List.cons_append, readMembers_member hvalue, expect_self]
  | .cons key value (.cons key' value' more), fuel + 1, rest, _, h => by
    simp only [Members.size] at h
    have hmore := readMembers_text (.cons key' value' more) fuel rest (by simp) (by
      simp only [Members.size]
      omega)
    have hvalue := readValue_text value fuel
      (',' :: ((Members.cons key' value' more).text ++ '\x7d' :: rest)) (by omega)
    rw [Members.text_cons_cons, List.append_assoc, List.cons_append, List.append_assoc,
      List.cons_append, readMembers_member hvalue]
    show (expect ',' (',' :: _)).bind _ = _
    rw [expect_self, Option.bind_some, hmore]
    rfl
  | .cons _ _ _, 0, _, _, h => absurd h (by simp [Members.size])

end

/-- **Round trip.** The text of a value is read back as that value. -/
theorem parse_text (v : Value) : parse v.text = some v := by
  have hread := readValue_text v (v.text.length + 1) [] (Nat.le_succ_of_le v.size_le_text)
  rw [List.append_nil] at hread
  unfold parse
  rw [hread]

/-! ## Objects by their members -/

def string (s : String) : Value := .str s.toList

def object (members : List (String × Value)) : Value :=
  .obj (members.foldr (fun m rest => .cons m.1.toList m.2 rest) .nil)

def stringify (v : Value) : String := String.ofList v.text

/-- The value of a member, where no two members have one key. -/
def Value.member (key : String) : Value → Option Value
  | .str _ => none
  | .obj members => find members
where
  find : Members → Option Value
    | .nil => none
    | .cons key' value rest => if key' = key.toList then some value else find rest

def Value.stringMember (key : String) (v : Value) : Option String :=
  match v.member key with
  | some (.str s) => some (String.ofList s)
  | _ => none

theorem parse_stringify (v : Value) : parse (stringify v).toList = some v := by
  rw [stringify, String.toList_ofList, parse_text]

theorem member_object (key : String) (members : List (String × Value)) :
    (object members).member key = (members.find? fun m => m.1 = key).map Prod.snd := by
  show Value.member.find key _ = _
  induction members with
  | nil => rfl
  | cons m members ih =>
    rw [List.foldr_cons, Value.member.find, ih, List.find?_cons]
    by_cases h : m.1 = key
    · simp [h]
    · have h' : m.1.toList ≠ key.toList := fun heq => h (String.toList_inj.mp heq)
      simp [h, h']

end Json
