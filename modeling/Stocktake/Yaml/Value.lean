import Stocktake.Yaml.Event
import Stocktake.Yaml.Scalar

/-!
# YAML values

The value of a YAML document: its events with tags resolved, aliases followed and scalars read.
`read` fails for a text that is no single document, whose nodes are nested more than 128 deep, in
which an alias has no anchor, aliases are followed too often, a mapping has a key twice, or a tagged
or plain scalar has no value.
-/

namespace Stocktake.Yaml

/-- A number: an integer of 64 bits or a float. -/
inductive Number
  | integer (value : Int)
  | float (value : Binary64)
  deriving DecidableEq, Repr

/-- Whether two numbers are the same key. -/
def Number.same : Number → Number → Bool
  | .integer a, .integer b => a == b
  | .float a, .float b => a.sameValue b
  | _, _ => false

/-- The value of a YAML node. -/
inductive Value
  | null
  | bool (value : Bool)
  | number (value : Number)
  | string (text : String)
  | sequence (items : List Value)
  | mapping (members : List (Value × Value))
  | tagged (tag : String) (value : Value)
  deriving Repr, Inhabited

namespace Value

/-- A tag without the exclamation mark before it. -/
def bareTag (tag : String) : String :=
  match tag.toList with
  | '!' :: rest => if rest.isEmpty then tag else String.ofList rest
  | _ => tag

mutual

/-- Whether two values are the same key: mappings in any order, tags with or without their mark. -/
def same : Value → Value → Bool
  | .null, .null => true
  | .bool a, .bool b => a == b
  | .number a, .number b => a.same b
  | .string a, .string b => a == b
  | .sequence a, .sequence b => sameItems a b
  | .mapping a, .mapping b => a.length == b.length && coveredBy a b
  | .tagged t a, .tagged u b => bareTag t == bareTag u && same a b
  | _, _ => false

/-- Whether two lists of values are the same, item by item. -/
def sameItems : List Value → List Value → Bool
  | [], [] => true
  | a :: as, b :: bs => same a b && sameItems as bs
  | _, _ => false

/-- Whether every member of the first mapping is one of the second. -/
def coveredBy : List (Value × Value) → List (Value × Value) → Bool
  | [], _ => true
  | (k, v) :: rest, other => other.any (fun m => same k m.1 && same v m.2) && coveredBy rest other

end

/-- The members of a mapping have a key. -/
def hasKey (members : List (Value × Value)) (key : Value) : Bool :=
  members.any fun m => m.1.same key

/-- A document: its events, and for every number of an anchor the place of its node. -/
structure Document where
  events : Array Event
  /-- For the alias at a place, the number of its anchor. -/
  aliases : List (Nat × Nat)
  places : List (Nat × Nat)

/-- What was seen while anchors are numbered: the last number of every name, and the document. -/
structure Numbering where
  numbers : List (String × Nat) := []
  document : Document := ⟨#[], [], []⟩

/-- Gives the anchor of a node its number, which is the number of different names before it. -/
def Numbering.anchor (n : Numbering) (name : Option String) : Numbering :=
  match name with
  | none => n
  | some name =>
    let k := n.numbers.length
    let known := n.numbers.any fun x => x.1 == name
    let numbers :=
      if known then n.numbers.map fun x => if x.1 == name then (name, k) else x
      else (name, k) :: n.numbers
    { n with numbers, document.places := (k, n.document.events.size) :: n.document.places }

/-- Adds an event; fails for an alias of an unknown anchor. -/
def Numbering.add (n : Numbering) (e : Event) : Option Numbering :=
  let push (n : Numbering) : Numbering := { n with document.events := n.document.events.push e }
  match e with
  | .alias name =>
    match n.numbers.lookup name with
    | some k =>
      some (push { n with document.aliases := (n.document.events.size, k) :: n.document.aliases })
    | none => none
  | .scalar a _ _ _ => some (push (n.anchor a))
  | .sequenceStart a _ => some (push (n.anchor a))
  | .mappingStart a _ => some (push (n.anchor a))
  | _ => some (push n)

/-- The document that events make. -/
def Document.ofEvents? (es : List Event) : Option Document :=
  (es.foldlM Numbering.add {}).map Numbering.document

/-- The tag of a node as a name, if it is one of the document's own: it starts with `!`. -/
def ownTag (tag : Option String) : Option String :=
  tag.bind fun t => if t.toList.head? == some '!' then some (bareTag t) else none

/-- The value of what a plain scalar stands for. -/
def ofScalar : Scalar → Option Value
  | .null => some .null
  | .bool b => some (.bool b)
  | .integer i => some (.number (.integer i))
  | .float x => some (.number (.float x))
  | .string s => some (.string s)
  | .unrepresentable => none

/-- The value of a scalar.  A tag of the core schema wants text of its kind. -/
def scalarValue (tagKnown : Bool) (tag : Option String) (text : String) (plain : Bool) :
    Option Value :=
  let core (name : String) : Bool := !tagKnown && tag == some ("tag:yaml.org,2002:" ++ name)
  if core "bool" then (Scalar.bool? text).map .bool
  else if core "int" then (Scalar.integer? text).bind ofScalar
  else if core "float" then (Scalar.float? text.toList).map fun x => .number (.float x)
  else if core "null" then (if Scalar.isNull text then some .null else none)
  else if !tagKnown && tag.any fun t => t.toList.head? != some '!' then some (.string text)
  else if plain then ofScalar (Scalar.resolve text)
  else some (.string text)

/-- A value, the place behind its events and the number of aliases followed so far. -/
abbrev Read (α : Type) := Option (α × Nat × Nat)

mutual

/-- The value of the node at place `pos`.  The tag of the document's own may have been taken already
    (`tagKnown`); `jumps` aliases have been followed, of at most a hundred for every event. -/
def node (d : Document) (tagKnown : Bool) : (depth fuel pos jumps : Nat) → Read Value
  | _, 0, _, _ => none
  | depth, fuel + 1, pos, jumps =>
    match d.events[pos]? with
    | none => none
    | some (.alias _) =>
      if d.events.size * 100 < jumps + 1 then none
      else
        match (d.aliases.lookup pos).bind fun k => d.places.lookup k with
        | some target =>
          (node d false depth fuel target (jumps + 1)).map fun (v, _, jumps) => (v, pos + 1, jumps)
        | none => none
    | some (.scalar _ tag text plain) =>
      match if tagKnown then none else ownTag tag with
      | some t => (scalarValue true tag text plain).map fun v => (.tagged t v, pos + 1, jumps)
      | none => (scalarValue tagKnown tag text plain).map fun v => (v, pos + 1, jumps)
    | some (.sequenceStart _ tag) =>
      match depth with
      | 0 => none
      | depth + 1 =>
        (items d depth fuel (pos + 1) jumps).map fun (vs, rest) =>
          match if tagKnown then none else ownTag tag with
          | some t => (.tagged t (.sequence vs), rest)
          | none => (.sequence vs, rest)
    | some (.mappingStart _ tag) =>
      match depth with
      | 0 => none
      | depth + 1 =>
        let own := if tagKnown then none else ownTag tag
        (members d (tagKnown || own.isSome) [] depth fuel (pos + 1) jumps).map fun (ms, rest) =>
          match own with
          | some t => (.tagged t (.mapping ms), rest)
          | none => (.mapping ms, rest)
    | some .sequenceEnd => none
    | some .mappingEnd => none
termination_by structural _ fuel => fuel

/-- The items of a sequence from place `pos` on. -/
def items (d : Document) : (depth fuel pos jumps : Nat) → Read (List Value)
  | _, 0, _, _ => none
  | depth, fuel + 1, pos, jumps =>
    match d.events[pos]? with
    | some .sequenceEnd => some ([], pos + 1, jumps)
    | _ =>
      match node d false depth fuel pos jumps with
      | none => none
      | some (v, pos, jumps) =>
        (items d depth fuel pos jumps).map fun (vs, rest) => (v :: vs, rest)
termination_by structural _ fuel => fuel

/-- The members of a mapping from place `pos` on, `done` being those before them.  The keys of a
    tagged mapping have no tags of their own. -/
def members (d : Document) (tagKnown : Bool) (done : List (Value × Value)) :
    (depth fuel pos jumps : Nat) → Read (List (Value × Value))
  | _, 0, _, _ => none
  | depth, fuel + 1, pos, jumps =>
    match d.events[pos]? with
    | some .mappingEnd => some (done.reverse, pos + 1, jumps)
    | _ =>
      match node d tagKnown depth fuel pos jumps with
      | none => none
      | some (k, pos, jumps) =>
        if hasKey done k then none
        else
          match node d false depth fuel pos jumps with
          | none => none
          | some (v, pos, jumps) => members d tagKnown ((k, v) :: done) depth fuel pos jumps
termination_by structural _ fuel => fuel

end

/-- How deep nodes may be nested. -/
def depthLimit : Nat := 128

/-- The value of a document; null for one without nodes. -/
def ofEvents? (es : List Event) : Option Value :=
  match es with
  | [] => some .null
  | _ =>
    match Document.ofEvents? es with
    | none => none
    | some d =>
      (node d false depthLimit ((depthLimit + 2) * (es.length + 2)) 0 0).map fun (v, _) => v

end Value

/-- The value of a YAML text that is a single document. -/
def read (text : String) : Option Value :=
  ((Token.scan text).bind Event.ofTokens?).bind Value.ofEvents?

end Stocktake.Yaml
