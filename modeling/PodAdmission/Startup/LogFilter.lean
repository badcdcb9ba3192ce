import PodAdmission.Startup.Directive

/-!
# Log filters

Which events are written. A filter is a list of directives with commas between them. For an event
the most specific of those that fit decides: the one with the longest target that the event's
target starts with, then the one with more fields, which the event all has to have.

A directive about a span or the value of a field fits no event by itself.
-/

namespace PodAdmission

/-- What a filter says about events with a target and with fields. -/
structure FilterRule where
  target : String
  fields : List String
  level : Option Level
  deriving DecidableEq

namespace FilterRule

/-- The rule of a directive that says something about events by itself. -/
def ofDirective? (d : Directive) : Option FilterRule :=
  if d.isStatic then some ⟨d.target, d.fields.map FieldCondition.name, d.level⟩ else none

/-- The rule is about an event with this target and these fields. -/
def fits (target : String) (fields : List String) (r : FilterRule) : Bool :=
  r.target.toList.isPrefixOf target.toList && r.fields.all fields.contains

/-- The rule is not less specific than another one. Of rules that fit the same event and have as
many fields, the one with the greater names is taken for the more specific one. -/
def covers (r other : FilterRule) : Bool :=
  if r.target.length ≠ other.target.length then other.target.length < r.target.length
  else if r.fields.length ≠ other.fields.length then other.fields.length < r.fields.length
  else !List.lex r.fields other.fields (· < ·)

end FilterRule

/-- A filter: rules that differ in target or fields. -/
abbrev LogFilter := List FilterRule

namespace LogFilter

/-- The filter if none is configured. -/
def defaultText : String := "info,tower=warn,hyper=warn,rustls=warn"

/-- Adds a rule in place of an earlier one about the same target and fields. -/
def add (filter : LogFilter) (r : FilterRule) : LogFilter :=
  filter.filter (fun e => e.target ≠ r.target ∨ e.fields ≠ r.fields) ++ [r]

/-- The filter of some directives. If there are none, errors are let through. -/
def ofDirectives : List Directive → LogFilter
  | [] => [⟨"", [], some .error⟩]
  | directives => (directives.filterMap FilterRule.ofDirective?).foldl add []

/-- The directives of a list of texts, or why the first that is none is not one. -/
def readAll : List String → Except DirectiveFault (List Directive)
  | [] => .ok []
  | s :: rest =>
    match Directive.read s with
    | .error fault => .error fault
    | .ok d => (readAll rest).map (d :: ·)

/-- The filter that a text stands for. -/
def read (s : String) : Except DirectiveFault LogFilter :=
  (readAll ((s.splitOn ",").filter (· ≠ ""))).map ofDirectives

/-- The configured filter, or the default one if there is none or it is malformed. There is no
filter for a text that breaks a character. -/
def resolve (configured : Option String) : Except DirectiveFault LogFilter :=
  match configured with
  | none => read defaultText
  | some s =>
    match read s with
    | .error .malformed => read defaultText
    | filter => filter

/-- The rule that decides about an event. -/
def deciding? (target : String) (fields : List String) (filter : LogFilter) :
    Option FilterRule :=
  (filter.filter (FilterRule.fits target fields)).foldl
    (fun best r =>
      match best with
      | some b => if r.covers b then some r else some b
      | none => some r)
    none

/-- Events of a level with a target and fields are written. -/
def admits (target : String) (fields : List String) (level : Level) (filter : LogFilter) : Bool :=
  match filter.deciding? target fields with
  | some ⟨_, _, some most⟩ => level.rank ≤ most.rank
  | _ => false

end LogFilter

end PodAdmission
