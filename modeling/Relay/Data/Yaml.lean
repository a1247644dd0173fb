import Relay.Data.Yaml.Token

namespace Relay

inductive Yaml where
  | scalar (tag : Option String) (isPlain : Bool) (text : String)
  | sequence (tag : Option String) (items : List Yaml)
  | mapping (tag : Option String) (entries : List (Yaml × Yaml))
  | anchored (name : String) (part : Yaml)
  | alias (name : String)
  deriving Repr, Inhabited

namespace Yaml

def empty : Yaml := .scalar none true ""

def anchoredBy (name : Option String) (part : Yaml) : Yaml :=
  match name with
  | some name => .anchored name part
  | none => part

/-- The anchor and the tag in front of a part, in either order. -/
def properties : List Token → Option String × Option String × List Token
  | .anchor name :: .tag _ tag :: rest | .tag _ tag :: .anchor name :: rest =>
    (some name, some tag, rest)
  | .anchor name :: rest => (some name, none, rest)
  | .tag _ tag :: rest => (none, some tag, rest)
  | rest => (none, none, rest)

/-- The tag of a scalar; an exclamation mark alone says nothing of it. -/
def scalarTag (tag : Option String) : Option String := tag.filter (· != "!")

/-- Whether the next token is among some, or there is none. -/
def endsAt (tokens : List Token) (ends : List Token) : Bool := tokens.head?.all ends.contains

/-- A part of which only the anchor or the tag is written. -/
def bare (name tag : Option String) (rest : List Token) : Option (Yaml × List Token) :=
  if name.isSome || tag.isSome then some (.scalar (scalarTag tag) true "", rest) else none

mutual

/-- A part of a document from the front of the tokens. -/
def node? : (fuel : Nat) → (inBlock listAllowed : Bool) → List Token → Option (Yaml × List Token)
  | 0, _, _, _ => none
  | fuel + 1, inBlock, listAllowed, tokens =>
    match tokens with
    | .alias name :: rest => some (.alias name, rest)
    | tokens => do
      let (name, tag, inner) := properties tokens
      let (part, rest) ← match inner, inBlock with
        | .entry :: _, _ =>
          if listAllowed then
            let (xs, rest) ← looseItems? fuel inner
            some (.sequence tag xs, rest)
          else bare name tag inner
        | .scalar isPlain text :: rest, _ => some (.scalar (scalarTag tag) isPlain text, rest)
        | .open true :: rest, _ =>
          let (xs, rest) ← flowItems? fuel true rest
          some (.sequence tag xs, rest)
        | .open false :: rest, _ =>
          let (es, rest) ← flowEntries? fuel true rest
          some (.mapping tag es, rest)
        | .blockSequence :: rest, true =>
          let (xs, rest) ← blockItems? fuel rest
          some (.sequence tag xs, rest)
        | .blockMapping :: rest, true =>
          let (es, rest) ← blockEntries? fuel rest
          some (.mapping tag es, rest)
        | inner, _ => bare name tag inner
      return (anchoredBy name part, rest)

/-- A part of a document, or nothing before a token that may follow it. -/
def optional? : (fuel : Nat) → (inBlock listAllowed : Bool) → (ends : List Token) → List Token →
    Option (Yaml × List Token)
  | 0, _, _, _, _ => none
  | fuel + 1, inBlock, listAllowed, ends, tokens =>
    if endsAt tokens ends then some (empty, tokens) else node? fuel inBlock listAllowed tokens

def blockItems? : (fuel : Nat) → List Token → Option (List Yaml × List Token)
  | 0, _ => none
  | fuel + 1, tokens =>
    match tokens with
    | .entry :: rest => do
      let (x, rest) ← optional? fuel true false [.entry, .blockEnd] rest
      let (xs, rest) ← blockItems? fuel rest
      return (x :: xs, rest)
    | .blockEnd :: rest => some ([], rest)
    | _ => none

/-- The items of a sequence at the column of the mapping around it. -/
def looseItems? : (fuel : Nat) → List Token → Option (List Yaml × List Token)
  | 0, _ => none
  | fuel + 1, tokens =>
    match tokens with
    | .entry :: rest => do
      let (x, rest) ← optional? fuel true false [.entry, .key, .value, .blockEnd] rest
      let (xs, rest) ← looseItems? fuel rest
      return (x :: xs, rest)
    | rest => some ([], rest)

def blockEntries? : (fuel : Nat) → List Token → Option (List (Yaml × Yaml) × List Token)
  | 0, _ => none
  | fuel + 1, tokens =>
    match tokens with
    | .key :: rest => do
      let (k, rest) ← optional? fuel true true [.key, .value, .blockEnd] rest
      let (v, rest) ← match rest with
        | .value :: rest => optional? fuel true true [.key, .value, .blockEnd] rest
        | rest => some (empty, rest)
      let (es, rest) ← blockEntries? fuel rest
      return ((k, v) :: es, rest)
    | .blockEnd :: rest => some ([], rest)
    | _ => none

/-- The items of a sequence in brackets; `first` says that none was read. An item may be a mapping of
one entry. -/
def flowItems? : (fuel : Nat) → (first : Bool) → List Token → Option (List Yaml × List Token)
  | 0, _, _ => none
  | fuel + 1, first, tokens =>
    match tokens with
    | .close true :: rest => some ([], rest)
    | tokens => do
      let tokens ← if first then some tokens else
        match tokens with
        | .comma :: rest => some rest
        | _ => none
      match tokens with
      | .close true :: rest => return ([], rest)
      | .key :: rest =>
        let (k, rest) ← optional? fuel false false [.value, .comma, .close true] rest
        let (v, rest) ← match rest with
          | .value :: rest => optional? fuel false false [.comma, .close true] rest
          | rest => some (empty, rest)
        let (xs, rest) ← flowItems? fuel false rest
        return (.mapping none [(k, v)] :: xs, rest)
      | tokens =>
        let (x, rest) ← node? fuel false false tokens
        let (xs, rest) ← flowItems? fuel false rest
        return (x :: xs, rest)

/-- The entries of a mapping in brackets; `first` says that none was read. -/
def flowEntries? : (fuel : Nat) → (first : Bool) → List Token → Option (List (Yaml × Yaml) × List Token)
  | 0, _, _ => none
  | fuel + 1, first, tokens =>
    match tokens with
    | .close false :: rest => some ([], rest)
    | tokens => do
      let tokens ← if first then some tokens else
        match tokens with
        | .comma :: rest => some rest
        | _ => none
      match tokens with
      | .close false :: rest => return ([], rest)
      | .key :: rest =>
        let (k, rest) ← optional? fuel false false [.value, .comma, .close false] rest
        let (v, rest) ← match rest with
          | .value :: rest => optional? fuel false false [.comma, .close false] rest
          | rest => some (empty, rest)
        let (es, rest) ← flowEntries? fuel false rest
        return ((k, v) :: es, rest)
      | tokens =>
        let (k, rest) ← node? fuel false false tokens
        let (es, rest) ← flowEntries? fuel false rest
        return ((k, empty) :: es, rest)

end

def leading : List Token → List Directive × List Token
  | .directive d :: rest =>
    let (ds, rest) := leading rest
    (d :: ds, rest)
  | rest => ([], rest)

/-- A token whose tag is written out; none if its handle stands for nothing. -/
def spelledOut? (handles : List (String × String)) : Token → Option Token
  | .tag handle suffix =>
    if handle.isEmpty then some (.tag "" suffix)
    else (handles.lookup handle).map fun text => .tag "" (text ++ suffix)
  | token => some token

/-- The only document that tokens spell. Every third step takes a token, so fuel for three times as
many suffices. -/
def ofTokens? (tokens : List Token) : Option Yaml := do
  let (directives, tokens) := leading tokens
  let handles ← handles? directives
  let tokens ← tokens.mapM (spelledOut? handles)
  let fuel := 3 * (tokens.length + 1)
  let (document, rest) ← match tokens with
    | [] => if directives.isEmpty then some (empty, []) else none
    | .documentStart :: rest => optional? fuel true false [.documentStart, .documentEnd] rest
    | tokens => if directives.isEmpty then node? fuel true false tokens else none
  if rest.all (· == .documentEnd) then some document else none

/-- The parts that have anchors, in the order of the anchors, each with the number of aliases inside it,
and how many aliases were replaced. A part that is not read to its end yet is none. -/
structure Expansion where
  parts : List (String × Option (Yaml × Nat))
  aliases : Nat

def Expansion.part? (x : Expansion) (name : String) : Option (Yaml × Nat) :=
  ((x.parts.reverse.find? (·.1 == name)).map (·.2)).join

mutual

/-- A part without anchors and aliases; none if an alias has no part, or stands inside it. -/
def expand : Yaml → StateT Expansion Option Yaml
  | .scalar tag isPlain text => return .scalar tag isPlain text
  | .sequence tag items => return .sequence tag (← expandItems items)
  | .mapping tag entries => return .mapping tag (← expandEntries entries)
  | .alias name => do
    let (part, inner) ← (← get).part? name
    modify fun x => { x with aliases := x.aliases + inner + 1 }
    return part
  | .anchored name part => do
    let before ← get
    set { before with parts := before.parts ++ [(name, none)] }
    let part ← expand part
    modify fun x =>
      { x with parts :=
          x.parts.set before.parts.length (name, some (part, x.aliases - before.aliases)) }
    return part

def expandItems : List Yaml → StateT Expansion Option (List Yaml)
  | [] => return []
  | item :: rest => return (← expand item) :: (← expandItems rest)

def expandEntries : List (Yaml × Yaml) → StateT Expansion Option (List (Yaml × Yaml))
  | [] => return []
  | entry :: rest => return (← expandEntry entry) :: (← expandEntries rest)

def expandEntry : Yaml × Yaml → StateT Expansion Option (Yaml × Yaml)
  | (key, value) => return (← expand key, ← expand value)

end

mutual

/-- How many marks a document consists of: one for a scalar or an alias, and two around a collection. -/
def marks : Yaml → Nat
  | .scalar .. | .alias _ => 1
  | .sequence _ items => 2 + itemMarks items
  | .mapping _ entries => 2 + entriesMarks entries
  | .anchored _ part => marks part

def itemMarks : List Yaml → Nat
  | [] => 0
  | item :: rest => marks item + itemMarks rest

def entriesMarks : List (Yaml × Yaml) → Nat
  | [] => 0
  | entry :: rest => entryMarks entry + entriesMarks rest

def entryMarks : Yaml × Yaml → Nat
  | (key, value) => marks key + marks value

end

/-- How many aliases may be replaced for each mark of a document. -/
def aliasLimit : Nat := 100

/-- A document without anchors and aliases; none if it has too many. -/
def expanded? (document : Yaml) : Option Yaml := do
  let (result, x) ← (expand document).run ⟨[], 0⟩
  if marks document * aliasLimit < x.aliases then none else some result

/-- A part without its own tag. -/
def untagged : Yaml → Yaml
  | .scalar _ isPlain text => .scalar none isPlain text
  | .sequence _ items => .sequence none items
  | .mapping _ entries => .mapping none entries
  | part => part

/-- The only document in a text; an empty text holds an empty document. -/
def parse? (text : String) : Option Yaml :=
  (Token.ofText? text).bind fun tokens => (ofTokens? tokens).bind expanded?

end Yaml

end Relay
