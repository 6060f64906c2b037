import SqlCompiler.Json.Reader

/-!
# Excerpts of JSON

A reader that looks for some members of an object passes over the others.  A
value that is passed over only has to be well formed: its numbers may be beyond
every range, the code units that its strings escape need not form characters,
and its arrays and objects may stand inside each other to any depth.  The key
of such a member is read like every other key.
-/

namespace SqlCompiler

namespace Json

/-- Pass over the rest of a string, its closing quotation mark included. -/
def passString : List Char → Option (List Char)
  | [] => none
  | '"' :: rest => some rest
  | '\\' :: 'u' :: first :: second :: third :: fourth :: rest =>
      if [first, second, third, fourth].all (fun c => (hexValue? c).isSome) then passString rest
      else none
  | '\\' :: mark :: rest => if (markedCharacter? mark).isSome then passString rest else none
  | c :: rest => if c = '\\' ∨ c.toNat < 32 then none else passString rest

mutual

def passValue : Nat → List Char → Option (List Char)
  | 0, _ => none
  | fuel + 1, text =>
      match text with
      | '"' :: rest => passString rest
      | '[' :: rest =>
          match skipSpace rest with
          | ']' :: rest => some rest
          | rest => passItems fuel rest
      | '\x7b' :: rest =>
          match skipSpace rest with
          | '\x7d' :: rest => some rest
          | rest => passMembers fuel rest
      | text =>
          readWord "null".toList text <|> readWord "true".toList text <|>
            readWord "false".toList text <|> (readNumber text).map Prod.snd

/-- Pass over the items of an array and its closing bracket. -/
def passItems : Nat → List Char → Option (List Char)
  | 0, _ => none
  | fuel + 1, text => do
      let rest ← passValue fuel (skipSpace text)
      match skipSpace rest with
      | ']' :: rest => some rest
      | ',' :: rest => passItems fuel rest
      | _ => none

/-- Pass over the members of an object and its closing brace. -/
def passMembers : Nat → List Char → Option (List Char)
  | 0, _ => none
  | fuel + 1, text => do
      let rest ← readWord ['"'] (skipSpace text)
      let rest ← passString rest
      let rest ← readWord [':'] (skipSpace rest)
      let rest ← passValue fuel (skipSpace rest)
      match skipSpace rest with
      | '\x7d' :: rest => some rest
      | ',' :: rest => passMembers fuel rest
      | _ => none

end

/-- Read the member with a listed key, and pass over the value of any other key. -/
def readListed (keys : List String) (key : String) (text : List Char) :
    Option (List (String × Json) × List Char) :=
  if keys.contains key then do
    let (value, rest) ← readDocument 1 (enoughCalls text) text
    some ([(key, value)], rest)
  else do
    let rest ← passValue (enoughCalls text) text
    some ([], rest)

/-- Read the listed members of an object and its closing brace. -/
def readMembersListed (keys : List String) : Nat → List Char →
    Option (List (String × Json) × List Char)
  | 0, _ => none
  | fuel + 1, text => do
      let rest ← readWord ['"'] (skipSpace text)
      let (key, rest) ← readString rest
      let rest ← readWord [':'] (skipSpace rest)
      let (found, rest) ← readListed keys key (skipSpace rest)
      match skipSpace rest with
      | '\x7d' :: rest => some (found, rest)
      | ',' :: rest =>
          let (others, rest) ← readMembersListed keys fuel rest
          some (found ++ others, rest)
      | _ => none

/-- Read the listed members of the object that a text holds; any other text is read whole. -/
def readExcerpt? (keys : List String) (text : String) : Option Json :=
  match skipSpace text.toList with
  | '\x7b' :: rest => do
      let (members, rest) ←
        match skipSpace rest with
        | '\x7d' :: rest => some ([], rest)
        | rest => readMembersListed keys rest.length rest
      guard (skipSpace rest).isEmpty
      some (.object members)
  | _ => read? text

end Json

end SqlCompiler
