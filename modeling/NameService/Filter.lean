import NameService.Error

/-!
Search filters made from templates. A template is a filter with conversions in the place of values:
`%s` stands for a text, `%d` for a number and `%%` for a percent sign. Texts are written so that no
character of theirs has a meaning in a filter, and what has been inserted is not read again.
-/

namespace NameService.Filter

/-- The values a template is filled with. An absent part of a triple matches anything; the last two
    fill the template once for every value. -/
inductive Args where
  | none
  | text (value : String)
  | number (value : Int)
  | texts (first second : String)
  | numberAndText (number : Int) (value : String)
  | triple (host user domain : Option String)
  | anyOf (values : List String)
  | allOf (values : List String)
deriving DecidableEq, Repr, Inhabited

/-- The text an answer is expected to be about. -/
def Args.key? : Args → Option String
  | .text value | .texts value _ | .numberAndText _ value => some value
  | .anyOf values | .allOf values => values.head?
  | .triple host user _ => host.or user
  | .none | .number _ => Option.none

/-- A character of a value as it is written in a filter. -/
def escapeChar (c : Char) : List Char :=
  if c = '*' then ['\\', '2', 'a']
  else if c = '(' then ['\\', '2', '8']
  else if c = ')' then ['\\', '2', '9']
  else if c = '\\' then ['\\', '5', 'c']
  else if c = '\x00' then ['\\', '0', '0']
  else [c]

def escape (value : String) : List Char := value.toList.flatMap escapeChar

/-- A value in the form in which it goes into a filter. -/
inductive Argument where
  | text (written : List Char)
  | number (value : Int)
deriving DecidableEq, Repr

/-- A conversion without a value of its kind, or a percent sign at the end of a template. -/
inductive Misfit where
  | unmatched (conversion : Char)
  | unfinished
deriving DecidableEq, Repr

def Misfit.toError (template : String) : Misfit → Error
  | unmatched conversion => .invalidRequest
      ("filter template `" ++ template ++ "` has unmatched conversion %" ++ conversion.toString)
  | unfinished => .invalidRequest ("filter template `" ++ template ++ "` ends with %")

/-- Conversions take the arguments in order; arguments that are left over do no harm. -/
def substitute : List Char → List Argument → Except Misfit (List Char)
  | [], _ => .ok []
  | ['%'], _ => .error .unfinished
  | '%' :: '%' :: rest, arguments => (substitute rest arguments).map ('%' :: ·)
  | '%' :: 's' :: rest, .text written :: arguments =>
    (substitute rest arguments).map (written ++ ·)
  | '%' :: 'd' :: rest, .number value :: arguments =>
    (substitute rest arguments).map ((toString value).toList ++ ·)
  | '%' :: conversion :: _, _ => .error (.unmatched conversion)
  | c :: rest, arguments => (substitute rest arguments).map (c :: ·)

def Argument.ofText (value : String) : Argument := .text (escape value)

/-- An absent part is a wildcard, which is not escaped. -/
def Argument.ofPart (value : Option String) : Argument :=
  match value with
  | some value => ofText value
  | none => .text ['*']

/-- One filter out of many, joined by an operator. -/
def aggregate (operator : Char) (template : List Char) (values : List String) :
    Except Misfit (List Char) := do
  let filters ← values.mapM fun value => substitute template [.ofText value]
  return '(' :: operator :: filters.flatten ++ [')']

def fill (template : List Char) : Args → Except Misfit (List Char)
  | .none => substitute template []
  | .text value => substitute template [.ofText value]
  | .number value => substitute template [.number value]
  | .texts first second => substitute template [.ofText first, .ofText second]
  | .numberAndText number value => substitute template [.number number, .ofText value]
  | .triple host user domain => substitute template [.ofPart host, .ofPart user, .ofPart domain]
  | .anyOf values => aggregate '|' template values
  | .allOf values => aggregate '&' template values

def render (template : String) (args : Args) : Except Error String :=
  ((fill template.toList args).map String.ofList).mapError (Misfit.toError template)

/-- A filter without the pair of parentheses around it. -/
def bare (filter : List Char) : List Char :=
  match filter with
  | '(' :: rest => if rest.getLast? = some ')' then rest.dropLast else filter
  | _ => filter

/-- The filter with another one put in front of its last parenthesis. -/
def conjoin (filter extra : List Char) : List Char :=
  let stem := if filter.getLast? = some ')' then filter.dropLast else filter
  stem ++ '(' :: extra ++ [')', ')']

/-- A filled template narrowed by the filter of a search descriptor. A template that takes values is
    a conjunction, which the extra filter joins; one that takes none is joined with it. -/
def narrow (filled : List Char) (args : Args) (extra : List Char) : List Char :=
  match args with
  | .none => '(' :: '&' :: filled ++ '(' :: bare extra ++ [')', ')']
  | _ => conjoin filled (bare extra)

def build (template : String) (args : Args) (descriptor : Option String) : Except Error String := do
  let filled ← render template args
  match descriptor with
  | none => return filled
  | some extra =>
    if extra.isEmpty then return filled
    else return String.ofList (narrow filled.toList args extra.toList)

end NameService.Filter
