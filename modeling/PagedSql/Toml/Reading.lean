import PagedSql.Toml.Scalar

/-!
# Reading TOML

* `readPath`      a key, or keys with points between them, on one line;
* `readValue`     a value; the first argument bounds the number of steps, the second how deep arrays
                  and tables may still lie in one another;
* `readLines`     the lines of a document, each a header or a key with its value;
* `Toml.read`     a document as the members of its root table.
-/

namespace PagedSql.Toml

/-! ## between values -/

def skipBlanks (cs : List Char) : List Char := cs.dropWhile isBlank

/-- what stands behind a comment; a character that may not stand in one is left -/
def skipComment (cs : List Char) : List Char := cs.dropWhile isLineChar

/-- what stands behind blanks, comments and line ends; `inComment` tells where the reading stands -/
def skipGap (inComment : Bool) : List Char → List Char
  | [] => []
  | '\n' :: cs => skipGap false cs
  | '\r' :: '\n' :: cs => skipGap false cs
  | c :: cs =>
    if inComment then if isLineChar c then skipGap true cs else c :: cs
    else if isBlank c then skipGap false cs
    else if c = '#' then skipGap true cs
    else c :: cs

/-- the next line, if nothing but blanks and a comment is left of this one -/
def endLine (cs : List Char) : Option (List Char) :=
  let rest := match skipBlanks cs with
    | '#' :: cs => skipComment cs
    | cs => cs
  match rest with
  | [] => some []
  | '\n' :: cs => some cs
  | '\r' :: '\n' :: cs => some cs
  | _ => none

/-! ## keys -/

def isKeyChar (c : Char) : Bool := c.isAlphanum || c = '_' || c = '-'

def readKey : List Char → Option (String × List Char)
  | '"' :: cs => readLineText '"' cs
  | '\'' :: cs => readLineText '\'' cs
  | cs =>
    match cs.takeWhile isKeyChar with
    | [] => none
    | key => some (String.ofList key, cs.dropWhile isKeyChar)

def readKeys : Nat → List Char → Option (List String × List Char)
  | 0, _ => none
  | fuel + 1, cs =>
    match readKey (skipBlanks cs) with
    | none => none
    | some (key, cs) =>
      match skipBlanks cs with
      | '.' :: cs => (readKeys fuel cs).map fun (keys, rest) => (key :: keys, rest)
      | cs => some ([key], cs)

/-- arrays and tables may lie so deep in one another, and so many keys may be joined by points -/
def maxDepth : Nat := 80

def readPath (fuel : Nat) (cs : List Char) : Option (List String × List Char) :=
  (readKeys fuel cs).filter fun found => found.1.length ≤ maxDepth

/-! ## values -/

mutual

def readValue : Nat → Nat → List Char → Option (Toml × List Char)
  | 0, _, _ => none
  | fuel + 1, depth, cs =>
    match cs with
    | '"' :: cs => (readText '"' cs).map fun (s, rest) => (.text s, rest)
    | '\'' :: cs => (readText '\'' cs).map fun (s, rest) => (.text s, rest)
    | '[' :: cs =>
      match depth with
      | 0 => none
      | depth + 1 => (readElements fuel depth cs).map fun (es, rest) => (.array .values es, rest)
    | '\x7b' :: cs =>
      match depth with
      | 0 => none
      | depth + 1 => (readMembers fuel depth [] cs).map fun (ms, rest) => (.table .inline ms, rest)
    | cs =>
      let (word, rest) := takeWord cs
      (scalar word).map (·, rest)

/-- elements up to the closing bracket; a comma may follow the last -/
def readElements : Nat → Nat → List Char → Option (List Toml × List Char)
  | 0, _, _ => none
  | fuel + 1, depth, cs =>
    match skipGap false cs with
    | ']' :: cs => some ([], cs)
    | cs =>
      match readValue fuel depth cs with
      | none => none
      | some (element, cs) =>
        match skipGap false cs with
        | ']' :: cs => some ([element], cs)
        | ',' :: cs => (readElements fuel depth cs).map fun (es, rest) => (element :: es, rest)
        | _ => none

/-- members up to the closing brace, behind others; lines may end between key, sign and value, and a
comma may follow the last -/
def readMembers : Nat → Nat → Members → List Char → Option (Members × List Char)
  | 0, _, _, _ => none
  | fuel + 1, depth, ms, cs =>
    match skipGap false cs with
    | '\x7d' :: cs => some (ms, cs)
    | cs =>
      match readPath (fuel + 1) cs with
      | none => none
      | some (path, cs) =>
        match skipGap false cs with
        | '=' :: cs =>
          match readValue fuel depth (skipGap false cs) with
          | none => none
          | some (value, cs) =>
            match assign path value ms with
            | none => none
            | some ms =>
              match skipGap false cs with
              | '\x7d' :: cs => some (ms, cs)
              | ',' :: cs => readMembers fuel depth ms cs
              | _ => none
        | _ => none

end

/-! ## lines -/

/-- the keys of a header, and what follows its closing bracket -/
def readHeader (fuel : Nat) (cs : List Char) : Option (List String × List Char) :=
  match readPath fuel cs with
  | some (path, ']' :: cs) => some (path, cs)
  | _ => none

/-- `path` leads to the table that the last header has opened -/
def readLines : Nat → List String → Members → List Char → Option Members
  | 0, _, _, _ => none
  | fuel + 1, path, root, cs =>
    match skipGap false cs with
    | [] => some root
    | '[' :: '[' :: cs =>
      match readHeader (fuel + 1) cs with
      | some (header, ']' :: cs) =>
        match appendTable header root, endLine cs with
        | some root, some cs => readLines fuel header root cs
        | _, _ => none
      | _ => none
    | '[' :: cs =>
      match readHeader (fuel + 1) cs with
      | some (header, cs) =>
        match openTable header root, endLine cs with
        | some root, some cs => readLines fuel header root cs
        | _, _ => none
      | none => none
    | cs =>
      match readPath (fuel + 1) cs with
      | some (key, '=' :: cs) =>
        match readValue (fuel + 1) maxDepth (skipBlanks cs) with
        | some (value, cs) =>
          match along (assign key value) path root, endLine cs with
          | some root, some cs => readLines fuel path root cs
          | _, _ => none
        | none => none
      | _ => none

/-- a mark of the byte order in front does not count -/
def dropMark : List Char → List Char
  | '\ufeff' :: cs => cs
  | cs => cs

def read (s : String) : Option Members :=
  let cs := dropMark s.toList
  readLines (2 * cs.length + 2) [] [] cs

end PagedSql.Toml
