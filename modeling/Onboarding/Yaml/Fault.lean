namespace Onboarding.Yaml

inductive Fault
  | malformed
  /-- A number or day that is written like one and does not exist. -/
  | noSuchScalar
  | emptyNumber
  | unknownBool
  | unknownDay
  /-- A number that is written like one and goes beyond what can be computed with. -/
  | numberTooLarge
  /-- A day is asked of a map that holds a text in its place. -/
  | dayInMap
  /-- What is not modelled: half of a pair of code units, a name for a node that is still being read, and
  one for a node whose equals sign may be taken for a text meanwhile. -/
  | uncovered
deriving DecidableEq, Repr

end Onboarding.Yaml
