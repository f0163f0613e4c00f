import Onboarding.Pattern.Matching
import Onboarding.Pattern.Reading

namespace Onboarding

/-- A pattern for what stands before a credential, as it is written and as it is read. -/
structure Keyword where
  text : Text
  pattern : Pattern
  read_text : Pattern.read text = .ok pattern
deriving DecidableEq

namespace Keyword

def ofText (t : Text) : Except Pattern.Fault Keyword :=
  match h : Pattern.read t with
  | .ok p => .ok ⟨t, p, h⟩
  | .error f => .error f

theorem ofText_text (k : Keyword) : ofText k.text = .ok k := by
  obtain ⟨t, p, h⟩ := k
  unfold ofText
  split
  · next q hq =>
      rw [h] at hq
      cases hq
      rfl
  · next f hf =>
      rw [h] at hf
      cases hf

/-- What follows the keyword in the larger pattern of a match: perhaps a quote, a separator and a value. -/
def behind : Text :=
  ("[\"']?\\s*[:=]\\s*(?:\"(?P<dq>[^\"]*)\"|'(?P<sq>[^']*)'|\x60(?P<bq>[^\x60]*)\x60" ++
    "|[\"'\x60]?(?P<bare>[^\\s\"'\x60,;]+))").toList

def enclosed (t : Text) : Text := '(' :: '?' :: ':' :: (t ++ ')' :: behind)

def isUsable (k : Keyword) : Bool := (Pattern.read (enclosed k.text)).isOk

def letters (t : Text) : Pattern.Expr :=
  .ofReversed (t.reverse.map fun c => .char (.single c.toNat))

def apiKey : Keyword :=
  ⟨"api_?key".toList,
   ⟨[], [],
    .seq (.char (.single 97)) (.seq (.char (.single 112)) (.seq (.char (.single 105))
      (.seq (.repeated (.char (.single 95)) 0 (some 1) .greedy)
        (.seq (.char (.single 107)) (.seq (.char (.single 101)) (.char (.single 121)))))))⟩,
   rfl⟩

def password : Keyword := ⟨"password".toList, ⟨[], [], letters "password".toList⟩, rfl⟩

def secret : Keyword := ⟨"secret".toList, ⟨[], [], letters "secret".toList⟩, rfl⟩

def token : Keyword := ⟨"token".toList, ⟨[], [], letters "token".toList⟩, rfl⟩

end Keyword

end Onboarding
