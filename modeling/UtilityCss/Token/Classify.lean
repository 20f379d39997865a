import UtilityCss.Token.Basic
import UtilityCss.Vocabulary.Css
import UtilityCss.Vocabulary.Language

/-!
# What a bare word means

A bare word such as `color` can be a property, the name of a variable, a suffix that expands a
property, or a value.  `Token.classify` decides from the tokens that were read before it.  Those are
given with the last one first, because only the nearest of them matter: the property that the word
may still expand (`statementProperty?`), the token directly before it, and the token that follows
the last keyword (`awaitsProperty`).
-/

namespace UtilityCss.Token

/-- Is the token a keyword? -/
def isKeyword : Token → Bool
  | .keyword _ => true
  | _ => false

/-- Is the token a suffix? -/
def isIdentifier : Token → Bool
  | .identifier _ => true
  | _ => false

/-- Is the token a property? -/
def isProperty : Token → Bool
  | .property _ => true
  | _ => false

/-- The property that a further word may expand: the last token before the word that is not itself
a suffix, if it is a property. -/
def statementProperty? (prior : List Token) : Option Text :=
  match prior.dropWhile isIdentifier with
  | .property name :: _ => some name
  | _ => none

/-- Does the suffix name a variant of the property?  The suffix `all` does so when there are
variants at all, unless it is a value of the property, and `none` never does. -/
def expands (base word : Text) : Bool :=
  if word = "none" then false
  else if word = "all" then
    base ∉ Vocabulary.allAsValueProperties && !(Vocabulary.variants base).isEmpty
  else base ++ "-" ++ word ∈ Vocabulary.properties

/-- Does a keyword stand directly before the word? -/
def followsKeyword (prior : List Token) : Bool := prior.head?.any isKeyword

/-- Does the statement still lack its property: is there a keyword, and is the token after the last
one not a property? -/
def awaitsProperty (prior : List Token) : Bool :=
  prior.any isKeyword &&
    !((prior.takeWhile fun token => !token.isKeyword).getLast?.any isProperty)

/-- The token of a bare word after the given ones, of which the last comes first. -/
def classify (prior : List Token) (word : Text) : Token :=
  if word ∈ Vocabulary.keywords then .keyword word
  else if word ∈ Vocabulary.identifiers && (statementProperty? prior).any (expands · word) then
    .identifier word
  else if word ∈ Vocabulary.valueKeywords && !followsKeyword prior then .value (.text word)
  else if prior.head? = some (.keyword "VAR") then .variable word
  else if word ∈ Vocabulary.properties && awaitsProperty prior then .property word
  else .variable word

end UtilityCss.Token
