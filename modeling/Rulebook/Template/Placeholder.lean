import Rulebook.Rule.Basic

/-!
# Placeholders for references

A reference `$name` in a token becomes the template placeholder for that name. A reference runs from its
mark to the next white space, further marks included; a mark with white space or nothing behind it stays.
-/

namespace Rulebook

/-- What stands before and after a name in a template. -/
def placeholder (name : Text) : Text := "\x7b\x7b " ++ name ++ " \x7d\x7d"

/-- Placeholders for the references of a text, behind the reversed result so far. -/
def toTemplateLoop : Nat → Text → Text → Text
  | 0, done, _ => done.reverse
  | _ + 1, done, [] => done.reverse
  | fuel + 1, done, c :: rest =>
    if c = variableMark then
      match rest.takeWhile (fun d => !Text.isSpace d) with
      | [] => toTemplateLoop fuel (c :: done) rest
      | name =>
        toTemplateLoop fuel ((placeholder name).reverse ++ done) (rest.dropWhile (fun d => !Text.isSpace d))
    else toTemplateLoop fuel (c :: done) rest

/-- The template of a token: each reference as a placeholder, all else unchanged. -/
def toTemplate (token : Text) : Text := toTemplateLoop (token.length + 1) [] token

end Rulebook
