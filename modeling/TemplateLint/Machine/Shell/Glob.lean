import TemplateLint.Machine.FileTree

set_option autoImplicit false

/-!
Patterns of the shell: a star stands for any text, a question mark for any byte, and brackets for one byte out
of a set.  Quoted characters stand for themselves, and so does a character behind a backslash.
-/

namespace TemplateLint.Machine.Shell

structure Mark where
  char : Char
  isQuoted : Bool
deriving DecidableEq, Repr

def unmark (marks : List Mark) : Octets := marks.map Mark.char

def markAll (isQuoted : Bool) (text : Octets) : List Mark := text.map fun c => ⟨c, isQuoted⟩

def Mark.isBare (mark : Mark) (c : Char) : Bool := mark.char == c && !mark.isQuoted

inductive SetItem where
  | one (c : Char)
  | range (low high : Char)
  | named (name : Octets)
deriving DecidableEq, Repr

def SetItem.holds (c : Char) : SetItem → Bool
  | .one d => c == d
  | .range low high => low.toNat ≤ c.toNat && c.toNat ≤ high.toNat
  | .named name => ((characterClass? name).map fun test => test c).getD false

inductive Element where
  | literal (c : Char)
  | anyByte
  | anyText
  | set (isNegated : Bool) (items : List SetItem)
deriving DecidableEq, Repr

/-- The name of a class of characters in a set, behind its opening bracket, and how many characters it takes. -/
def className? (marks : List Mark) : Option (Octets × Nat) :=
  match marks with
  | colon :: rest =>
      let name := rest.takeWhile fun mark => mark.char.isLower
      match rest.drop name.length with
      | first :: second :: _ =>
          if colon.isBare ':' && first.isBare ':' && second.isBare ']' && !name.isEmpty then
            some (unmark name, name.length + 3)
          else none
      | _ => none
  | [] => none

/-- The items of a set of at most `fuel` characters up to its closing bracket, which is an ordinary byte in first
place. -/
def readSet : Nat → Bool → List Mark → Option (List SetItem × List Mark)
  | 0, _, _ => none
  | _ + 1, _, [] => none
  | fuel + 1, isFirst, mark :: rest =>
      if mark.isBare ']' && !isFirst then some ([], rest)
      else
        match if mark.isBare '[' then className? rest else none with
        | some (name, count) =>
            (readSet fuel false (rest.drop count)).map fun (items, rest) => (.named name :: items, rest)
        | none =>
            let (low, rest) := match rest with
              | next :: after => if mark.isBare backslash then (next, after) else (mark, rest)
              | [] => (mark, rest)
            match rest with
            | dash :: high :: after =>
                if dash.isBare '-' && !high.isBare ']' then
                  let (high, after) := match after with
                    | next :: behind => if high.isBare backslash then (next, behind) else (high, after)
                    | [] => (high, after)
                  (readSet fuel false after).map fun (items, rest) =>
                    (.range low.char high.char :: items, rest)
                else
                  (readSet fuel false rest).map fun (items, rest) => (.one low.char :: items, rest)
            | other => (readSet fuel false other).map fun (items, rest) => (.one low.char :: items, rest)

def elementsWithin : Nat → List Mark → List Element
  | 0, _ => []
  | _ + 1, [] => []
  | fuel + 1, mark :: rest =>
      if mark.isBare '*' then .anyText :: elementsWithin fuel rest
      else if mark.isBare '?' then .anyByte :: elementsWithin fuel rest
      else if mark.isBare '[' then
        let (isNegated, inside) :=
          match rest with
          | first :: after => if first.isBare '!' then (true, after) else (false, rest)
          | [] => (false, rest)
        match readSet (inside.length + 1) true inside with
        | some (items, after) => .set isNegated items :: elementsWithin fuel after
        | none => .literal mark.char :: elementsWithin fuel rest
      else
        match rest with
        | next :: after =>
            if mark.isBare backslash then .literal next.char :: elementsWithin fuel after
            else .literal mark.char :: elementsWithin fuel rest
        | [] => [.literal mark.char]

def elements (marks : List Mark) : List Element := elementsWithin (marks.length + 1) marks

def Element.accepts (element : Element) (c : Char) : Bool :=
  match element with
  | .literal d => c == d
  | .anyByte => true
  | .anyText => true
  | .set isNegated items => (items.any fun item => item.holds c) != isNegated

/-- The ends of the texts that elements match at the start of a text: for every length whether the start of
that length is matched. -/
def matchedLengths (pattern : List Element) (text : Octets) : List Bool :=
  let first := true :: text.map fun _ => false
  pattern.foldl (fun reached element =>
    match element with
    | .anyText => (reached.foldl (fun (seen, lengths) here => (seen || here, (seen || here) :: lengths))
        (false, [])).2.reverse
    | _ => false :: List.zipWith (fun here c => here && element.accepts c) reached text) first

def matchesAll (pattern : List Element) (text : Octets) : Bool :=
  (matchedLengths pattern text).getLast?.getD false

/-- The text without a start that a pattern matches: the shortest or the longest one. -/
def dropMatchedStart (isLongest : Bool) (pattern : List Element) (text : Octets) : Octets :=
  let lengths := ((matchedLengths pattern text).zipIdx.filter Prod.fst).map Prod.snd
  match if isLongest then lengths.getLast? else lengths.head? with
  | some length => text.drop length
  | none => text

/-- The text without an end that a pattern matches: the shortest or the longest one. -/
def dropMatchedEnd (isLongest : Bool) (pattern : List Element) (text : Octets) : Octets :=
  let starts := (List.range (text.length + 1)).filter fun length => matchesAll pattern (text.drop length)
  match if isLongest then starts.head? else starts.getLast? with
  | some length => text.take length
  | none => text

def isPattern (marks : List Mark) : Bool :=
  (elements marks).any fun element => match element with
    | .literal _ => false
    | _ => true

def literalText (marks : List Mark) : Octets :=
  (elements marks).filterMap fun element => match element with
    | .literal c => some c
    | _ => none

/-! ### Names of files -/

def segmentsOf (marks : List Mark) : List (List Mark) :=
  marks.foldr (fun mark segments =>
    match segments with
    | [] => if mark.char = '/' then [[], []] else [[mark]]
    | segment :: rest => if mark.char = '/' then [] :: segment :: rest else (mark :: segment) :: rest) [[]]

/-- The names in a directory that a part of a pattern matches, in ascending order.  A name with a dot in
front is matched only by a pattern with a dot in front. -/
def matchingNames (files : FileTree) (place : Place) (segment : List Mark) : List Octets :=
  let pattern := elements segment
  let names := ['.'] :: ['.', '.'] :: (files.children place).map octetsOf
  let isMatch := fun (name : Octets) =>
    matchesAll pattern name && (name.head? != some '.' || pattern.head? == some (.literal '.'))
  (names.filter isMatch).mergeSort notAfter

def matchingPaths (files : FileTree) (directory : Place) : List (List Mark) → Octets → List Octets
  | [], text => [text]
  | segment :: rest, text =>
      let isThere := fun (path : Octets) =>
        (files.locateWith false directory ⟨bytesOf (if path.isEmpty then ['.'] else path)⟩).toOption.isSome
      let goOn := fun (path : Octets) =>
        if rest.isEmpty then (if isThere path then [path] else [])
        else matchingPaths files directory rest (path ++ ['/'])
      if isPattern segment then
        match files.locate directory ⟨bytesOf (if text.isEmpty then ['.'] else text)⟩ with
        | .ok place =>
            if files.isDirectory place then
              (matchingNames files place segment).flatMap fun name => goOn (text ++ name)
            else []
        | .error _ => []
      else goOn (text ++ literalText segment)

def matchesOf (files : FileTree) (directory : Place) (field : List Mark) : List Octets :=
  (matchingPaths files directory (segmentsOf field) []).mergeSort notAfter

end TemplateLint.Machine.Shell
