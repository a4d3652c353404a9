/-!
# Keys

What the browser has to be told for the page to see a real key: its name, its place on the
keyboard, its number, and the text it produces. Keys are looked up by name in any letter case;
single characters stand for their letter or digit key, and any other name is passed on as it is.
-/

namespace PageScript

/-- A key of the keyboard. -/
structure Key where
  /-- The name that the page sees. -/
  key : String
  code : String
  /-- The number, zero if there is none. -/
  keyCode : Nat
  /-- The text it produces when pressed. -/
  text : Option String
  deriving DecidableEq, Repr

namespace Key

/-- The keys that have names. -/
def named : List Key :=
  [⟨"Enter", "Enter", 13, some "\r"⟩, ⟨"Tab", "Tab", 9, none⟩,
   ⟨"Backspace", "Backspace", 8, none⟩, ⟨"Delete", "Delete", 46, none⟩,
   ⟨"Escape", "Escape", 27, none⟩, ⟨"Space", "Space", 32, some " "⟩,
   ⟨"ArrowUp", "ArrowUp", 38, none⟩, ⟨"ArrowDown", "ArrowDown", 40, none⟩,
   ⟨"ArrowLeft", "ArrowLeft", 37, none⟩, ⟨"ArrowRight", "ArrowRight", 39, none⟩,
   ⟨"Home", "Home", 36, none⟩, ⟨"End", "End", 35, none⟩, ⟨"PageUp", "PageUp", 33, none⟩,
   ⟨"PageDown", "PageDown", 34, none⟩, ⟨"Shift", "ShiftLeft", 16, none⟩,
   ⟨"Control", "ControlLeft", 17, none⟩, ⟨"Alt", "AltLeft", 18, none⟩,
   ⟨"Meta", "MetaLeft", 91, none⟩]

/-- The key of a single character. -/
def ofChar (c : Char) : Key :=
  let name := String.singleton c
  if c.isAlpha then ⟨name, "Key" ++ String.singleton c.toUpper, c.toUpper.toNat, some name⟩
  else if c.isDigit then ⟨name, "Digit" ++ name, c.toNat, some name⟩
  else ⟨name, "", 0, some name⟩

/-- The key of a name. The space bar is found by its name and by a space, and shows as a space. -/
def lookup (name : String) : Key :=
  let wanted := if name = " " then "Space" else name
  match named.find? fun k => k.key.toLower == wanted.toLower with
  | some k => if k.key = "Space" then { k with key := " " } else k
  | none =>
    match name.toList with
    | [c] => ofChar c
    | _ => ⟨name, name, 0, none⟩

end Key

end PageScript
