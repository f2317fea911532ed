import Stocktake.Shell.Script
import Stocktake.Text.Split

/-!
# Reading scripts

The grammar of scripts, read by recursive descent.  Every function gives what it has read and the
rest of the text, or nothing where the text is no script.  The fuel is larger than the number of
steps that a text of its length can take.
-/

namespace Stocktake.Shell

/-- The characters that end a word. -/
def endsWord (c : Char) : Bool := [' ', '\t', '\n', ';', '&', '|', '(', ')', '<', '>'].contains c

/-- The text after blanks, joined lines and a comment. -/
def skipBlanks : List Char → List Char
  | [] => []
  | ' ' :: s => skipBlanks s
  | '\t' :: s => skipBlanks s
  | '\\' :: '\n' :: s => skipBlanks s
  | '#' :: s => s.dropWhile fun c => c != '\n'
  | s => s

/-- The text after blanks and ends of lines. -/
def skipLines : (fuel : Nat) → List Char → List Char
  | 0, s => s
  | fuel + 1, s =>
    match skipBlanks s with
    | '\n' :: s => skipLines fuel s
    | s => s

/-- The text up to the end of an arithmetic expression, and the text after it. -/
def arithmeticText : (depth : Nat) → (done : List Char) → List Char → Option (String × List Char)
  | _, _, [] => none
  | 0, done, ')' :: s =>
    match s with
    | ')' :: s => some (String.ofList done.reverse, s)
    | _ => none
  | depth + 1, done, ')' :: s => arithmeticText depth (')' :: done) s
  | depth, done, '(' :: s => arithmeticText (depth + 1) ('(' :: done) s
  | depth, done, c :: s => arithmeticText depth (c :: done) s

/-- The text between single quotes, and the text after them. -/
def singleQuoted (s : List Char) : Option (String × List Char) :=
  match s.dropWhile fun c => c != '\'' with
  | [] => none
  | _ :: rest => some (String.ofList (s.takeWhile fun c => c != '\''), rest)

/-- The text up to a backquote, without the backslashes that quote there. -/
def backquoted : (done : List Char) → List Char → Option (List Char × List Char)
  | _, [] => none
  | done, '\x60' :: s => some (done.reverse, s)
  | done, '\\' :: c :: s =>
    if c = '\x60' || c = '\\' || c = '$' then backquoted (c :: done) s
    else backquoted (c :: '\\' :: done) s
  | done, c :: s => backquoted (c :: done) s

/-- The words that end a list inside a compound command. -/
def closingWords : List String := ["then", "else", "elif", "fi", "do", "done", "\x7d"]

/-- The plain word at the start of a text. -/
def firstWord (s : List Char) : String := String.ofList (s.takeWhile fun c => !endsWord c)

/-- The text after a given word at its start. -/
def afterWord? (word : String) (s : List Char) : Option (List Char) :=
  if firstWord s = word then some (s.drop word.length) else none

mutual

/-- What a dollar sign stands for. -/
def readExpansion (quoted : Bool) : (fuel : Nat) → List Char → Option (Part × List Char)
  | 0, _ => none
  | fuel + 1, s =>
    match s with
    | '(' :: '(' :: s => (arithmeticText 0 [] s).map fun (e, s) => (.number quoted e, s)
    | '(' :: s =>
      match readList fuel s with
      | some (script, ')' :: s) => some (.output quoted script, s)
      | _ => none
    | '\x7b' :: s =>
      let name := String.ofList (s.takeWhile isNameChar)
      match s.dropWhile isNameChar with
      | '\x7d' :: s => some (.value quoted name [], s)
      | ':' :: '-' :: s =>
        match readWord fuel true s with
        | some (word, '\x7d' :: s) => some (.value quoted name word, s)
        | _ => none
      | _ => none
    | c :: s =>
      if isNameStart c then
        some (.value quoted (String.ofList ((c :: s).takeWhile isNameChar)) [],
          (c :: s).dropWhile isNameChar)
      else if c = '?' || c = '$' || c = '#' || c.isDigit then
        some (.value quoted (String.ofList [c]) [], s)
      else some (.text quoted "$", c :: s)
    | [] => some (.text quoted "$", [])

/-- The parts of a text in double quotes. -/
def readQuoted : (fuel : Nat) → List Char → Option (Word × List Char)
  | 0, _ => none
  | fuel + 1, s =>
    let more := fun (p : Part) (s : List Char) => (readQuoted fuel s).map fun (ps, s) => (p :: ps, s)
    match s with
    | [] => none
    | '"' :: s => some ([.text true ""], s)
    | '\\' :: '\n' :: s => readQuoted fuel s
    | '\\' :: c :: s =>
      if c = '"' || c = '\\' || c = '$' || c = '\x60' then more (.text true (String.ofList [c])) s
      else more (.text true (String.ofList ['\\', c])) s
    | '$' :: s => (readExpansion true fuel s).bind fun (p, s) => more p s
    | '\x60' :: s =>
      (backquoted [] s).bind fun (inner, s) =>
        match readList fuel inner with
        | some (script, []) => more (.output true script) s
        | _ => none
    | c :: s => more (.text true (String.ofList [c])) s

/-- The parts of a word; inside braces it ends at the closing brace. -/
def readWord : (fuel : Nat) → (braced : Bool) → List Char → Option (Word × List Char)
  | 0, _, _ => none
  | fuel + 1, braced, s =>
    let more := fun (p : Part) (s : List Char) =>
      (readWord fuel braced s).map fun (ps, s) => (p :: ps, s)
    match s with
    | [] => some ([], [])
    | '\'' :: s => (singleQuoted s).bind fun (t, s) => more (.text true t) s
    | '"' :: s =>
      (readQuoted fuel s).bind fun (ps, s) =>
        (readWord fuel braced s).map fun (qs, s) => (ps ++ qs, s)
    | '\\' :: '\n' :: s => readWord fuel braced s
    | '\\' :: c :: s => more (.text true (String.ofList [c])) s
    | '$' :: s => (readExpansion false fuel s).bind fun (p, s) => more p s
    | '\x60' :: s =>
      (backquoted [] s).bind fun (inner, s) =>
        match readList fuel inner with
        | some (script, []) => more (.output false script) s
        | _ => none
    | c :: s =>
      if (braced && c = '\x7d') || (!braced && endsWord c) then some ([], c :: s)
      else more (.text false (String.ofList [c])) s

/-- A redirection, if there is one. -/
def readRedirection? : (fuel : Nat) → List Char → Option (Option (Redirection × List Char))
  | 0, _ => none
  | fuel + 1, s =>
    let digits := s.takeWhile Char.isDigit
    let number := (String.ofList digits).toNat?
    let withWord := fun (make : Word → Redirection) (s : List Char) =>
      match readWord fuel false (skipBlanks s) with
      | some (p :: ps, s) => some (some (make (p :: ps), s))
      | _ => none
    match s.drop digits.length with
    | '>' :: '>' :: s => withWord (.into (number.getD 1) true) s
    | '>' :: '&' :: s => withWord (.copy (number.getD 1)) s
    | '>' :: '|' :: s => withWord (.into (number.getD 1) false) s
    | '>' :: s => withWord (.into (number.getD 1) false) s
    | '<' :: '<' :: _ => none
    | '<' :: '&' :: s => withWord (.copy (number.getD 0)) s
    | '<' :: s => withWord .source s
    | _ => some none

/-- All redirections at the start. -/
def readRedirections : (fuel : Nat) → List Char → Option (List Redirection × List Char)
  | 0, _ => none
  | fuel + 1, s =>
    let s := skipBlanks s
    match readRedirection? fuel s with
    | none => none
    | some none => some ([], s)
    | some (some (r, s)) => (readRedirections fuel s).map fun (rs, s) => (r :: rs, s)

/-- The words and redirections of a simple command. -/
def readSimple : (fuel : Nat) → List Char → Option (List Word × List Redirection × List Char)
  | 0, _ => none
  | fuel + 1, s =>
    let s := skipBlanks s
    match readRedirection? fuel s with
    | none => none
    | some (some (r, s)) =>
      (readSimple fuel s).map fun (ws, rs, s) => (ws, r :: rs, s)
    | some none =>
      match s with
      | [] => some ([], [], [])
      | c :: _ =>
        if endsWord c then some ([], [], s)
        else
          (readWord fuel false s).bind fun (w, s) =>
            (readSimple fuel s).map fun (ws, rs, s) => (w :: ws, rs, s)

/-- The words of a list of words. -/
def readWords : (fuel : Nat) → List Char → Option (List Word × List Char)
  | 0, _ => none
  | fuel + 1, s =>
    match skipBlanks s with
    | [] => some ([], [])
    | c :: s =>
      if endsWord c then some ([], c :: s)
      else
        (readWord fuel false (c :: s)).bind fun (w, s) =>
          (readWords fuel s).map fun (ws, s) => (w :: ws, s)

/-- The rest of a condition, after its first word. -/
def readChoice : (fuel : Nat) → List Char → Option (Script × List Char)
  | 0, _ => none
  | fuel + 1, s => do
    let (condition, s) ← readList fuel s
    let s ← afterWord? "then" s
    let (yes, s) ← readList fuel s
    match firstWord s with
    | "fi" => pure (.choice condition yes .nothing, s.drop 2)
    | "else" =>
      let (no, s) ← readList fuel (s.drop 4)
      let s ← afterWord? "fi" s
      pure (.choice condition yes no, s)
    | "elif" =>
      let (no, s) ← readChoice fuel (s.drop 4)
      pure (.choice condition yes no, s)
    | _ => none

/-- The body of a loop. -/
def readBody : (fuel : Nat) → List Char → Option (Script × List Char)
  | 0, _ => none
  | fuel + 1, s => do
    let s ← afterWord? "do" (skipLines fuel s)
    let (body, s) ← readList fuel s
    let s ← afterWord? "done" s
    pure (body, s)

/-- A command with its redirections. -/
def readCommand : (fuel : Nat) → List Char → Option (Script × List Char)
  | 0, _ => none
  | fuel + 1, s =>
    let s := skipBlanks s
    let compound := fun (r : Option (Script × List Char)) =>
      r.bind fun (body, s) =>
        (readRedirections fuel s).map fun (rs, s) =>
          (if rs.isEmpty then body else .redirected body rs, s)
    match s, firstWord s with
    | '(' :: s, _ =>
      compound <| match readList fuel s with
        | some (.nothing, _) => none
        | some (body, ')' :: s) => some (.subshell body, s)
        | _ => none
    | s, "\x7b" =>
      compound ((readList fuel (s.drop 1)).bind fun (body, s) =>
        (afterWord? "\x7d" s).map fun s => (body, s))
    | s, "if" => compound (readChoice fuel (s.drop 2))
    | s, "while" =>
      compound ((readList fuel (s.drop 5)).bind fun (condition, s) =>
        (readBody fuel s).map fun (body, s) => (.loop true condition body, s))
    | s, "until" =>
      compound ((readList fuel (s.drop 5)).bind fun (condition, s) =>
        (readBody fuel s).map fun (body, s) => (.loop false condition body, s))
    | s, "for" =>
      compound <| do
        let s := skipBlanks (s.drop 3)
        let name := firstWord s
        if !isName name.toList then none
        let s ← afterWord? "in" (skipBlanks (s.drop name.length))
        let (words, s) ← readWords fuel s
        let s := match s with
          | ';' :: s => s
          | s => s
        let (body, s) ← readBody fuel s
        pure (.each name words body, s)
    | s, word =>
      if closingWords.contains word then none
      else
        match readSimple fuel s with
        | none => none
        | some ([], [], _) => none
        | some (words, rs, s) => some (.simple words rs, s)

/-- Commands joined by pipes. -/
def readPipeline : (fuel : Nat) → List Char → Option (Script × List Char)
  | 0, _ => none
  | fuel + 1, s =>
    match afterWord? "!" (skipBlanks s) with
    | some s => (readPipeline fuel s).map fun (p, s) => (.negated p, s)
    | none => (readCommand fuel s).bind fun (c, s) => readPipes fuel c s

/-- The rest of commands joined by pipes. -/
def readPipes : (fuel : Nat) → Script → List Char → Option (Script × List Char)
  | 0, _, _ => none
  | fuel + 1, left, s =>
    match skipBlanks s with
    | '|' :: '|' :: s => some (left, '|' :: '|' :: s)
    | '|' :: s => (readCommand fuel (skipLines fuel s)).bind fun (c, s) => readPipes fuel (.pipe left c) s
    | s => some (left, s)

/-- Pipelines of which one depends on the status of the one before. -/
def readConditions : (fuel : Nat) → Script → List Char → Option (Script × List Char)
  | 0, _, _ => none
  | fuel + 1, left, s =>
    match skipBlanks s with
    | '&' :: '&' :: s =>
      (readPipeline fuel (skipLines fuel s)).bind fun (p, s) => readConditions fuel (.both left p) s
    | '|' :: '|' :: s =>
      (readPipeline fuel (skipLines fuel s)).bind fun (p, s) => readConditions fuel (.either left p) s
    | s => some (left, s)

/-- A list of commands, up to what ends it. -/
def readList : (fuel : Nat) → List Char → Option (Script × List Char)
  | 0, _ => none
  | fuel + 1, s =>
    match skipLines fuel s with
    | [] => some (.nothing, [])
    | ')' :: s => some (.nothing, ')' :: s)
    | s =>
      if closingWords.contains (firstWord s) then some (.nothing, s)
      else
        match (readPipeline fuel s).bind fun (p, s) => readConditions fuel p s with
        | none => none
        | some (first, s) =>
          match skipBlanks s with
          | ';' :: s => (readList fuel s).map fun (rest, s) => (.sequence first rest, s)
          | '\n' :: s => (readList fuel s).map fun (rest, s) => (.sequence first rest, s)
          | '&' :: s =>
            (readList fuel s).map fun (rest, s) =>
              (.sequence (.either (.subshell first) (.simple [] [])) rest, s)
          | s => some (first, s)

end

/-- Why a text is no script. -/
inductive SyntaxFault
  | openQuotation
  | unexpectedEnd
  | unexpected (token : String)
  deriving DecidableEq, Repr

/-- The text of a fault. -/
def SyntaxFault.message : SyntaxFault → String
  | .openQuotation => "Unterminated quoted string"
  | .unexpectedEnd => "end of file unexpected"
  | .unexpected token => "\"" ++ token ++ "\" unexpected"

/-- Whether a quotation is open at the end of a text, and was so at the start. -/
def endsQuoted : (quote : Option Char) → List Char → Bool
  | quote, [] => quote.isSome
  | some '\'', c :: s => endsQuoted (if c = '\'' then none else some '\'') s
  | quote, ['\\'] => quote.isSome
  | quote, '\\' :: _ :: s => endsQuoted quote s
  | some quote, c :: s => endsQuoted (if c = quote then none else some quote) s
  | none, c :: s => endsQuoted (if c = '\'' || c = '"' then some c else none) s

/-- The operators, the longer ones first. -/
def operators : List String := ["&&", "||", ";;", "&", "|", ";", "(", ")", "<", ">"]

/-- The operator or the word at the start of a text. -/
def firstToken (s : List Char) : String :=
  let s := String.ofList s
  (operators.find? fun o => Text.startsWith s o).getD (firstWord s.toList)

/-- The script of a text. -/
def readScript (text : String) : Except SyntaxFault Script :=
  let cs := text.toList
  match readList (16 * text.length + 16) cs with
  | some (script, []) => .ok script
  | some (_, rest) => .error (.unexpected (firstToken rest))
  | none =>
    let start := skipLines (text.length + 1) cs
    if endsQuoted none cs then .error .openQuotation
    else if start.headD ' ' != '(' && operators.contains (firstToken start) then
      .error (.unexpected (firstToken start))
    else .error .unexpectedEnd

end Stocktake.Shell
