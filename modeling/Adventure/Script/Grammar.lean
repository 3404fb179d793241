import Adventure.Script.Reader

namespace Adventure.Script

/-- The phrases of the rule language, in the order in which a message names them. -/
inductive Phrase where
  | endOfInput
  | identifier
  | ruleName
  | quoted
  | quotedBody
  | nameWord
  | typeWord
  | predicateWord
  | ruleWord
  | observeWord
  | constraintWord
  | inverseWord
  | hintWord
  | program
  | nameStatement
  | typeStatement
  | typeList
  | predicateStatement
  | ruleStatement
  | observe
  | before
  | after
  | command
  | conjunction
  | literal
  | preserved
  | placeholder
  | placeholderName
  | constraintStatement
  | inverseStatement
  | hintStatement
deriving DecidableEq

namespace Phrase

/-- The phrases with the names they have in messages. -/
def labels : List (Phrase × String) :=
  [(endOfInput, "EOI"), (identifier, "ident"), (ruleName, "rule_name"), (quoted, "string"), (quotedBody, "inner"),
    (nameWord, "kw_name"), (typeWord, "kw_type"), (predicateWord, "kw_predicate"), (ruleWord, "kw_rule"),
    (observeWord, "kw_observe"), (constraintWord, "kw_constraint"), (inverseWord, "kw_inverse"),
    (hintWord, "kw_hint"), (program, "program"), (nameStatement, "name_decl"), (typeStatement, "type_decl"),
    (typeList, "type_list"), (predicateStatement, "predicate_decl"), (ruleStatement, "rule_decl"),
    (observe, "observe"), (before, "pre"), (after, "post"), (command, "command"), (conjunction, "conjunction"),
    (literal, "literal"), (preserved, "preserved"), (placeholder, "placeholder"),
    (placeholderName, "placeholder_name"), (constraintStatement, "constraint_decl"),
    (inverseStatement, "inverse_decl"), (hintStatement, "hint_decl")]

end Phrase

/-- What a phrase is made of. -/
inductive Form where
  | text (chars : List Char)
  | char (allowed : Char → Bool)
  | unless (next : Char → Bool)
  | finish
  | phrase (part : Phrase)
  | seq (first second : Form)
  | either (first second : Form)
  | maybe (form : Form)
  /-- Any number of rounds. -/
  | star (form : Form)
  /-- Any number of further rounds, each after blanks. -/
  | more (form : Form)

namespace Form

def all : List Form → Form
  | [] => .text []
  | [form] => form
  | form :: rest => .seq form (all rest)

def oneOf : List Form → Form
  | [] => .char fun _ => false
  | [form] => form
  | form :: rest => .either form (oneOf rest)

def mark (text : String) : Form := .text text.toList

def plus (form : Form) : Form := .seq form (.star form)

def listOf (separator : String) (item : Form) : Form := .seq item (.star (.seq (mark separator) item))

def keyword (word : String) : Form := .seq (mark word) (.unless isWordChar)

end Form

/-- How blanks and failures are treated inside a phrase. -/
inductive Texture where
  /-- Blanks may stand between the parts. -/
  | loose
  /-- No blanks, but failures of parts are reported. -/
  | tight
  /-- No blanks, and a failure is that of the whole. -/
  | solid
deriving DecidableEq

def Phrase.form : Phrase → Texture × Form
  | .endOfInput => (.loose, .finish)
  | .identifier => (.solid, .seq (.char isWordStart) (.star (.char isWordChar)))
  | .ruleName => (.solid, .listOf "/" (.phrase .identifier))
  | .quoted => (.tight, .all [.mark "\"", .phrase .quotedBody, .mark "\""])
  | .quotedBody =>
    (.solid, .star (.either (.char fun c => c != '"' && c != '\\') (.seq (.mark "\\") (.char fun _ => true))))
  | .nameWord => (.solid, .keyword "name")
  | .typeWord => (.solid, .keyword "type")
  | .predicateWord => (.solid, .keyword "predicate")
  | .ruleWord => (.solid, .keyword "rule")
  | .observeWord => (.solid, .keyword "observe")
  | .constraintWord => (.solid, .keyword "constraint")
  | .inverseWord => (.solid, .keyword "inverse")
  | .hintWord => (.solid, .keyword "hint")
  | .program =>
    (.loose, .all [.text [],
      .star (.oneOf [.phrase .nameStatement, .phrase .typeStatement, .phrase .predicateStatement,
        .phrase .ruleStatement, .phrase .constraintStatement, .phrase .inverseStatement, .phrase .hintStatement]),
      .phrase .endOfInput])
  | .nameStatement => (.loose, .all [.phrase .nameWord, .phrase .quoted, .mark ";"])
  | .typeStatement =>
    (.loose, .all [.phrase .typeWord, .phrase .identifier, .maybe (.seq (.mark ":") (.phrase .typeList)), .mark ";"])
  | .typeList => (.loose, .listOf "," (.phrase .identifier))
  | .predicateStatement =>
    (.loose, .all [.phrase .predicateWord, .phrase .identifier, .mark "(", .maybe (.phrase .typeList), .mark ")",
      .mark ";"])
  | .ruleStatement =>
    (.loose, .all [.maybe (.phrase .observe), .phrase .ruleWord, .phrase .ruleName, .mark "::", .phrase .before,
      .mark "->", .phrase .after, .maybe (.phrase .command), .mark ";"])
  | .observe => (.loose, .phrase .observeWord)
  | .before => (.loose, .maybe (.phrase .conjunction))
  | .after => (.loose, .maybe (.phrase .conjunction))
  | .command => (.loose, .seq (.mark "=>") (.phrase .quoted))
  | .conjunction => (.loose, .listOf "&" (.phrase .literal))
  | .literal =>
    (.loose, .all [.maybe (.phrase .preserved), .phrase .identifier, .mark "(",
      .maybe (.listOf "," (.phrase .placeholder)), .mark ")"])
  | .preserved => (.loose, .mark "$")
  | .placeholder => (.loose, .seq (.phrase .placeholderName) (.maybe (.seq (.mark ":") (.phrase .identifier))))
  | .placeholderName => (.solid, .seq (.plus (.char isNameChar)) (.star (.mark "'")))
  | .constraintStatement =>
    (.loose, .all [.phrase .constraintWord, .phrase .ruleName, .mark "::", .phrase .conjunction, .mark ";"])
  | .inverseStatement =>
    (.loose, .all [.phrase .inverseWord, .phrase .ruleName, .mark "::", .phrase .ruleName, .mark ";"])
  | .hintStatement => (.loose, .all [.phrase .hintWord, .phrase .identifier, .phrase .quoted, .mark ";"])

end Adventure.Script
