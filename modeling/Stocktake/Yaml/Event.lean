import Stocktake.Yaml.Token

/-!
# YAML events

The nodes of one YAML document written one after the other: a scalar, an alias, or the start and the
end of a sequence or mapping.  `Event.ofTokens?` reads the events of a token list by recursive
descent; it fails where the tokens are no document, and where a second document follows.
-/

namespace Stocktake.Yaml

/-- A part of a document.  An empty node is a plain scalar without text. -/
inductive Event
  | alias (name : String)
  | scalar (anchor tag : Option String) (text : String) (plain : Bool)
  | sequenceStart (anchor tag : Option String)
  | sequenceEnd
  | mappingStart (anchor tag : Option String)
  | mappingEnd
  deriving DecidableEq, Repr, Inhabited

namespace Event

/-- The node that is not there. -/
def blank : Event := .scalar none none "" true

/-- What reads events: from tag expansions and tokens it makes events and leaves tokens. -/
abbrev Step := List Token → Option (List Event × List Token)

/-- What a tag handle stands for. -/
abbrev Handles := List (String × String)

/-- The handles that every document knows. -/
def defaultHandles : Handles := [("!", "!"), ("!!", "tag:yaml.org,2002:")]

/-- The tag that a handle and a suffix make. -/
def resolveTag (handles : Handles) (handle suffix : String) : Option String :=
  if handle.isEmpty then some suffix else (handles.lookup handle).map (· ++ suffix)

/-- The anchor and the tag before a node, in either order. -/
def properties (handles : Handles) : List Token → Option (Option String × Option String × List Token)
  | .anchor a :: .tag h s :: rest => (resolveTag handles h s).map fun t => (some a, some t, rest)
  | .tag h s :: .anchor a :: rest => (resolveTag handles h s).map fun t => (some a, some t, rest)
  | .anchor a :: rest => some (some a, none, rest)
  | .tag h s :: rest => (resolveTag handles h s).map fun t => (none, some t, rest)
  | rest => some (none, none, rest)

/-- Events in front of those of a step. -/
def after (es : List Event) (r : Option (List Event × List Token)) :
    Option (List Event × List Token) :=
  r.map fun (es', rest) => (es ++ es', rest)

mutual

/-- One node.  In `block` position it may be a block; where `indentless` a sequence need not be
    indented. -/
def node (handles : Handles) (block indentless : Bool) : (fuel : Nat) → Step
  | 0, _ => none
  | _ + 1, .alias name :: rest => some ([.alias name], rest)
  | fuel + 1, ts =>
    match properties handles ts with
    | none => none
    | some (anchor, tag, ts) =>
      match ts with
      | .scalar text plain :: rest =>
        some ([.scalar anchor (if tag == some "!" then none else tag) text plain], rest)
      | .flowSequenceStart :: rest =>
        after [.sequenceStart anchor tag] (flowItems handles true fuel rest)
      | .flowMappingStart :: rest =>
        after [.mappingStart anchor tag] (flowMembers handles true fuel rest)
      | ts =>
        match indentless, block, ts with
        | true, _, .blockEntry :: _ =>
          after [.sequenceStart anchor tag] (indentlessItems handles fuel ts)
        | _, true, .blockSequenceStart :: rest =>
          after [.sequenceStart anchor tag] (blockItems handles fuel rest)
        | _, true, .blockMappingStart :: rest =>
          after [.mappingStart anchor tag] (blockMembers handles fuel rest)
        | _, _, ts =>
          if anchor.isSome || tag.isSome then some ([.scalar anchor tag "" true], ts) else none

/-- The entries of a block sequence. -/
def blockItems (handles : Handles) : (fuel : Nat) → Step
  | 0, _ => none
  | fuel + 1, .blockEntry :: rest =>
    match rest with
    | .blockEntry :: _ | .blockEnd :: _ => after [blank] (blockItems handles fuel rest)
    | _ =>
      match node handles true false fuel rest with
      | some (es, rest) => after es (blockItems handles fuel rest)
      | none => none
  | _ + 1, .blockEnd :: rest => some ([.sequenceEnd], rest)
  | _ + 1, _ => none

/-- The entries of a sequence that stands at the column of its mapping. -/
def indentlessItems (handles : Handles) : (fuel : Nat) → Step
  | 0, _ => none
  | fuel + 1, .blockEntry :: rest =>
    match rest with
    | .blockEntry :: _ | .key :: _ | .value :: _ | .blockEnd :: _ =>
      after [blank] (indentlessItems handles fuel rest)
    | _ =>
      match node handles true false fuel rest with
      | some (es, rest) => after es (indentlessItems handles fuel rest)
      | none => none
  | _ + 1, ts => some ([.sequenceEnd], ts)

/-- The members of a block mapping. -/
def blockMembers (handles : Handles) : (fuel : Nat) → Step
  | 0, _ => none
  | fuel + 1, .key :: rest =>
    match rest with
    | .key :: _ | .value :: _ | .blockEnd :: _ => after [blank] (blockValue handles fuel rest)
    | _ =>
      match node handles true true fuel rest with
      | some (es, rest) => after es (blockValue handles fuel rest)
      | none => none
  | _ + 1, .blockEnd :: rest => some ([.mappingEnd], rest)
  | _ + 1, _ => none

/-- The value of a member of a block mapping, and the members after it. -/
def blockValue (handles : Handles) : (fuel : Nat) → Step
  | 0, _ => none
  | fuel + 1, .value :: rest =>
    match rest with
    | .key :: _ | .value :: _ | .blockEnd :: _ => after [blank] (blockMembers handles fuel rest)
    | _ =>
      match node handles true true fuel rest with
      | some (es, rest) => after es (blockMembers handles fuel rest)
      | none => none
  | fuel + 1, ts => after [blank] (blockMembers handles fuel ts)

/-- The items of a sequence in brackets. -/
def flowItems (handles : Handles) (first : Bool) : (fuel : Nat) → Step
  | 0, _ => none
  | _ + 1, .flowSequenceEnd :: rest => some ([.sequenceEnd], rest)
  | fuel + 1, ts =>
    let rest? :=
      match first, ts with
      | true, ts => some ts
      | false, .flowEntry :: rest => some rest
      | false, _ => none
    match rest? with
    | none => none
    | some (.flowSequenceEnd :: rest) => some ([.sequenceEnd], rest)
    | some (.key :: rest) => after [.mappingStart none none] (pairKey handles fuel rest)
    | some rest =>
      match node handles false false fuel rest with
      | some (es, rest) => after es (flowItems handles false fuel rest)
      | none => none

/-- The key of a single pair in brackets.  Where there is none the token behind it is lost. -/
def pairKey (handles : Handles) : (fuel : Nat) → Step
  | 0, _ => none
  | fuel + 1, ts =>
    match ts with
    | .value :: rest | .flowEntry :: rest | .flowSequenceEnd :: rest =>
      after [blank] (pairValue handles fuel rest)
    | _ =>
      match node handles false false fuel ts with
      | some (es, rest) => after es (pairValue handles fuel rest)
      | none => none

/-- The value of a single pair in brackets, and the items after it. -/
def pairValue (handles : Handles) : (fuel : Nat) → Step
  | 0, _ => none
  | fuel + 1, .value :: rest =>
    match rest with
    | .flowEntry :: _ | .flowSequenceEnd :: _ =>
      after [blank, .mappingEnd] (flowItems handles false fuel rest)
    | _ =>
      match node handles false false fuel rest with
      | some (es, rest) => after (es ++ [.mappingEnd]) (flowItems handles false fuel rest)
      | none => none
  | fuel + 1, ts => after [blank, .mappingEnd] (flowItems handles false fuel ts)

/-- The members of a mapping in braces. -/
def flowMembers (handles : Handles) (first : Bool) : (fuel : Nat) → Step
  | 0, _ => none
  | _ + 1, .flowMappingEnd :: rest => some ([.mappingEnd], rest)
  | fuel + 1, ts =>
    let rest? :=
      match first, ts with
      | true, ts => some ts
      | false, .flowEntry :: rest => some rest
      | false, _ => none
    match rest? with
    | none => none
    | some (.flowMappingEnd :: rest) => some ([.mappingEnd], rest)
    | some (.key :: rest) =>
      match rest with
      | .value :: _ | .flowEntry :: _ | .flowMappingEnd :: _ =>
        after [blank] (flowValue handles fuel rest)
      | _ =>
        match node handles false false fuel rest with
        | some (es, rest) => after es (flowValue handles fuel rest)
        | none => none
    | some rest =>
      match node handles false false fuel rest with
      | some (es, rest) => after (es ++ [blank]) (flowMembers handles false fuel rest)
      | none => none

/-- The value of a member of a mapping in braces, and the members after it. -/
def flowValue (handles : Handles) : (fuel : Nat) → Step
  | 0, _ => none
  | fuel + 1, .value :: rest =>
    match rest with
    | .flowEntry :: _ | .flowMappingEnd :: _ => after [blank] (flowMembers handles false fuel rest)
    | _ =>
      match node handles false false fuel rest with
      | some (es, rest) => after es (flowMembers handles false fuel rest)
      | none => none
  | fuel + 1, ts => after [blank] (flowMembers handles false fuel ts)

end

/-- The directives before a document: the tag handles, and whether a version was given.  A version
    is 1.1 or 1.2, and neither it nor a handle is given twice. -/
def directives (versioned : Bool) (handles : Handles) : List Token → Option (Handles × List Token)
  | .versionDirective major minor :: rest =>
    if versioned || major != 1 || (minor != 1 && minor != 2) then none
    else directives true handles rest
  | .tagDirective handle expansion :: rest =>
    if (handles.lookup handle).isSome then none
    else directives versioned (handles ++ [(handle, expansion)]) rest
  | ts => some (handles ++ defaultHandles, ts)

/-- The only document from its first node on: nothing but the end of the document follows. -/
def root (handles : Handles) (ts : List Token) : Option (List Event) :=
  match node handles true false (4 * ts.length + 4) ts with
  | none => none
  | some (es, rest) =>
    match rest.dropWhile (· == .documentEnd) with
    | [.streamEnd] => some es
    | _ => none

/-- The events of the only document; none for a text without document. -/
def ofTokens? (ts : List Token) : Option (List Event) :=
  match ts with
  | [.streamEnd] => some []
  | .versionDirective .. :: _ | .tagDirective .. :: _ | .documentStart :: _ =>
    match directives false [] ts with
    | some (handles, .documentStart :: rest) =>
      match rest with
      | .versionDirective .. :: _ | .tagDirective .. :: _ | .documentStart :: _
      | .documentEnd :: _ | .streamEnd :: _ =>
        match rest.dropWhile (· == .documentEnd) with
        | [.streamEnd] => some [blank]
        | _ => none
      | _ => root handles rest
    | _ => none
  | _ => root defaultHandles ts

end Event

end Stocktake.Yaml
