import ClusterProbe.Json.Printer
import ClusterProbe.Lookup
import ClusterProbe.Text.Blank

/-!
# Templates

A template is text with tags: an expression between double braces names a value, and a comment
between brace and number sign stands for nothing. Cutting a template into segments does not depend
on the values; the flaws that it finds are segments as well, so that of two flaws the one that comes
first in the text is reported.
-/

namespace ClusterProbe.Template

/-- The two delimiters that must be closed. -/
inductive Opener where
  | expression | comment
deriving DecidableEq

/-- What is wrong with a template. -/
inductive Problem where
  | unterminated (opener : Opener)
  | statement
  | unsupported (expression : List Char)
  | undefined (path : List Char)
deriving DecidableEq

/-- A problem and the line where it begins, counted from one. -/
structure Flaw where
  line : Nat
  problem : Problem
deriving DecidableEq

/-- The text of an opening delimiter. -/
def Opener.text : Opener → String
  | .expression => "\x7b\x7b"
  | .comment => "\x7b#"

/-- The wording of a problem. -/
def Problem.message : Problem → String
  | .unterminated o => "unterminated '" ++ o.text ++ "'"
  | .statement => "statement blocks are not supported"
  | .unsupported e => "unsupported expression '" ++ String.ofList e ++ "'"
  | .undefined p => "'" ++ String.ofList p ++ "' is undefined"

/-- The wording of a flaw. -/
def Flaw.message (f : Flaw) : String :=
  "line " ++ toString f.line ++ ": " ++ f.problem.message

/-- A stretch of a template. -/
inductive Segment where
  | literal (text : List Char)
  /-- A comment, with the text between its delimiters. -/
  | comment (body : List Char)
  /-- An expression, with the line it starts on and the text between its delimiters. -/
  | expression (line : Nat) (body : List Char)
  | flaw (flaw : Flaw)

/-- The number of line feeds in a text. -/
def lineFeeds (cs : List Char) : Nat := cs.count '\n'

/-- The text before the first occurrence of two characters in a row. -/
def before? (a b : Char) : List Char → Option (List Char)
  | [] => none
  | [_] => none
  | c :: d :: r =>
    if c = a && d = b then some [] else (before? a b (d :: r)).map (c :: ·)

/-- The text before and the text behind the first occurrence of two characters in a row. -/
def splitAt? (a b : Char) (cs : List Char) : Option (List Char × List Char) :=
  (before? a b cs).map fun front ↦ (front, cs.drop (front.length + 2))

/-- What lies behind two characters is shorter. -/
theorem length_of_splitAt? {a b : Char} {cs front rest : List Char}
    (h : splitAt? a b cs = some (front, rest)) : rest.length ≤ cs.length := by
  simp only [splitAt?, Option.map_eq_some_iff, Prod.mk.injEq] at h
  obtain ⟨_, _, _, rfl⟩ := h
  simp

/-- The literal text between two tags, which starts on line `line`. It must not hold an opening
delimiter; of the two kinds the one of an expression is looked for first. -/
def literalSegment (line : Nat) (text : List Char) : Segment :=
  match before? '{' '{' text with
  | some front => .flaw ⟨line + lineFeeds front, .unterminated .expression⟩
  | none =>
    match before? '{' '#' text with
    | some front => .flaw ⟨line + lineFeeds front, .unterminated .comment⟩
    | none => .literal text

/-- The segments of a text whose literal part up to the first tag starts on line `line`. -/
def lead (line : Nat) (parts : List Char × List Segment) : List Segment :=
  literalSegment line parts.1 :: parts.2

/-- Cuts a template, from line `line` on, into the literal text up to the first tag and the segments
from that tag on. A delimiter that nothing closes is literal text here, and becomes a flaw when the
literal text is complete. -/
def cut (line : Nat) (cs : List Char) : List Char × List Segment :=
  let literal (c : Char) (parts : List Char × List Segment) := (c :: parts.1, parts.2)
  match cs with
  | '{' :: '{' :: rest =>
    match _h : splitAt? '}' '}' rest with
    | some (body, after) =>
      let next := line + lineFeeds body
      ([], .expression line body :: lead next (cut next after))
    | none => literal '{' (cut line ('{' :: rest))
  | '{' :: '#' :: rest =>
    match _h : splitAt? '#' '}' rest with
    | some (body, after) =>
      let next := line + lineFeeds body
      ([], .comment body :: lead next (cut next after))
    | none => literal '{' (cut line ('#' :: rest))
  | '{' :: '%' :: _ => ([], [.flaw ⟨line, .statement⟩])
  | c :: rest => literal c (cut (if c = '\n' then line + 1 else line) rest)
  | [] => ([], [])
termination_by cs.length
decreasing_by
  all_goals simp_wf
  · have := length_of_splitAt? _h; omega
  · have := length_of_splitAt? _h; omega

/-- The segments of a template. -/
def segments (source : List Char) : List Segment := lead 1 (cut 1 source)

/-- What an expression on a line stands for. -/
def substitute (values : Json) (line : Nat) (body : List Char) : Except Flaw (List Char) :=
  let path := Text.trim body
  if !isTemplatePath path then .error ⟨line, .unsupported path⟩
  else match values.lookup? path with
    | some v => .ok v.plainText.toList
    | none => .error ⟨line, .undefined path⟩

/-- What a segment stands for. -/
def Segment.expand (values : Json) : Segment → Except Flaw (List Char)
  | .literal text => .ok text
  | .comment _ => .ok []
  | .expression line body => substitute values line body
  | .flaw f => .error f

/-- What segments stand for, one after the other; the first flaw counts. -/
def expandAll (values : Json) : List Segment → Except Flaw (List Char)
  | [] => .ok []
  | s :: rest => do
    let text ← s.expand values
    let more ← expandAll values rest
    .ok (text ++ more)

/-- The text of a template with its expressions replaced by values. -/
def expand (values : Json) (source : List Char) : Except Flaw (List Char) :=
  expandAll values (segments source)

end ClusterProbe.Template
