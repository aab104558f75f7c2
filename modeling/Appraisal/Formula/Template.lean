/-!
# Text with fields

The body of a text that holds fields between braces: literal runs, and fields with the text of an
expression and an optional format, which may hold fields itself. The expressions are not looked into
here.
-/

namespace Appraisal.Formula

/-- A run of a template; `shown` is the text that a field writes in front of its value. -/
inductive Run
  | literal (body : List Char)
  | field (expression shown : List Char) (format : Option (List Run))

namespace Run

/-- A literal run at the head of a template, with its escapes, and the rest. The Boolean says that
the run ended with a doubled brace, so that another literal follows. -/
def literalAt (raw doubling : Bool) : Nat → List Char → Option (List Char × Bool × List Char)
  | 0, _ => none
  | _ + 1, [] => some ([], false, [])
  | fuel + 1, c :: s =>
      let keep (taken : List Char) (s : List Char) :=
        (literalAt raw doubling fuel s).map (fun r => (taken ++ r.1, r.2))
      if c = '\\' && !raw then
        match s with
        | [] => some ([c], false, [])
        | 'N' :: '\x7b' :: s =>
            let name := s.takeWhile (· != '\x7d')
            keep ('\\' :: 'N' :: '\x7b' :: name ++ (s.drop name.length).take 1)
              (s.drop (name.length + 1))
        | d :: t => if d = '\x7b' || d = '\x7d' then keep [c] s else keep [c, d] t
      else if c = '\x7b' || c = '\x7d' then
        if doubling && s.head? = some c then some ([c], true, s.drop 1)
        else if doubling && c = '\x7d' then none
        else some ([], false, c :: s)
      else keep [c] s

def isBracketPair (o c : Char) : Bool :=
  (o = '(' && c = ')') || (o = '[' && c = ']') || (o = '\x7b' && c = '\x7d')

def quotedPart? (long : Bool) (q : Char) : List Char → Option (List Char × List Char)
  | [] => none
  | '\\' :: _ => none
  | c :: s =>
      if c = q && !long then some ([c], s)
      else if c = q && s.take 2 = [q, q] then some ([q, q, q], s.drop 2)
      else (quotedPart? long q s).map (fun r => (c :: r.1, r.2))

/-- The text of the expression of a field, and the rest, which starts with the mark that ends the
expression. Brackets and quotes hide such marks. -/
def expressionAt : Nat → List Char → List Char → Option (List Char × List Char)
  | 0, _, _ => none
  | _ + 1, _, [] => none
  | fuel + 1, stack, c :: s =>
      let keep (stack taken s : List Char) :=
        (expressionAt fuel stack s).map (fun r => (taken ++ r.1, r.2))
      if c = '\\' || c = '#' then none
      else if c = '\x27' || c = '"' then
        let long := s.take 2 = [c, c]
        match quotedPart? long c (if long then s.drop 2 else s) with
        | some (body, s) => keep stack ((if long then [c, c, c] else [c]) ++ body) s
        | none => none
      else if c = '(' || c = '[' || c = '\x7b' then
        if stack.length < 200 then keep (c :: stack) [c] s else none
      else if stack.isEmpty && (c = '!' || c = '=' || c = '<' || c = '>') && s.head? = some '=' then
        keep stack [c, '='] (s.drop 1)
      else if stack.isEmpty && (c = '!' || c = ':' || c = '\x7d' || c = '=') then
        some ([], c :: s)
      else if c = ')' || c = ']' || c = '\x7d' then
        match stack with
        | o :: stack => if isBracketPair o c then keep stack [c] s else none
        | [] => none
      else keep stack [c] s

def isSpace (c : Char) : Bool :=
  c = ' ' || (9 ≤ c.toNat && c.toNat ≤ 13)

/-- The conversion mark of a field is one of three letters. -/
def afterConversion? : List Char → Option (List Char)
  | '!' :: c :: s => if c = 's' || c = 'r' || c = 'a' then some s else none
  | ['!'] => none
  | s => some s

def isVoid (s : List Char) : Bool :=
  s.all (fun c => c = ' ' || c = '\t' || c = '\n' || c.toNat = 12)

/-- The runs of a template and the rest. At level zero the rest is empty; below, it starts with the
brace that ends the format. Fields stand at the first two levels. -/
def runsAt (raw : Bool) : Nat → Nat → List Char → Option (List Run × List Char)
  | 0, _, _ => none
  | fuel + 1, level, s =>
      match literalAt raw (level = 0) (s.length + 1) s with
      | none => none
      | some (body, true, s) =>
          (runsAt raw fuel level s).map (fun r => (literal body :: r.1, r.2))
      | some (body, false, '\x7b' :: s) =>
          if 2 ≤ level then none
          else
            match expressionAt (s.length + 1) [] s with
            | none => none
            | some (e, s) =>
                let (shown, s) :=
                  match s with
                  | '=' :: t =>
                      let gap := t.takeWhile isSpace
                      (e ++ '=' :: gap, t.drop gap.length)
                  | _ => ([], s)
                if isVoid e then none
                else
                  match afterConversion? s with
                  | some (':' :: s) =>
                      match runsAt raw fuel (level + 1) s with
                      | some (format, '\x7d' :: s) =>
                          (runsAt raw fuel level s).map (fun r =>
                            (literal body :: field e shown (some format) :: r.1, r.2))
                      | _ => none
                  | some ('\x7d' :: s) =>
                      (runsAt raw fuel level s).map (fun r =>
                        (literal body :: field e shown none :: r.1, r.2))
                  | _ => none
      | some (body, false, s) => some ([literal body], s)

def ofBody? (raw : Bool) (body : List Char) : Option (List Run) :=
  match runsAt raw (body.length + 1) 0 body with
  | some (runs, []) => some runs
  | _ => none

end Run

end Appraisal.Formula
