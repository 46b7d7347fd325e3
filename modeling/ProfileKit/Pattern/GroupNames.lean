/-!
# Names of groups

A named group may be opened by `(?P<name>` as well as by `(?<name>`. The first spelling is changed
into the second one, except where the parenthesis is escaped or stands in a character class.

| here | `parser::pattern` of glossa-core |
| --- | --- |
| `respellGroups` | `translate_named_groups` |
| `respell` | its loop, where `inClass` is `in_class` |
-/

namespace ProfileKit.Pattern

/-- Respells the openers of named groups; `inClass` tells that a class is open. A closing bracket
right after the opening one, or after its caret, belongs to the class. -/
def respell : (inClass : Bool) → List Char → List Char
  | inClass, '\\' :: c :: cs => '\\' :: c :: respell inClass cs
  | false, '[' :: '^' :: ']' :: cs => '[' :: '^' :: ']' :: respell true cs
  | false, '[' :: '^' :: cs => '[' :: '^' :: respell true cs
  | false, '[' :: ']' :: cs => '[' :: ']' :: respell true cs
  | false, '[' :: cs => '[' :: respell true cs
  | true, ']' :: cs => ']' :: respell false cs
  | false, '(' :: '?' :: 'P' :: '<' :: cs => '(' :: '?' :: '<' :: respell false cs
  | inClass, c :: cs => c :: respell inClass cs
  | _, [] => []

/-- The pattern with all named groups spelled alike: `translate_named_groups`. -/
def respellGroups (pattern : String) : String := String.ofList (respell false pattern.toList)

end ProfileKit.Pattern
