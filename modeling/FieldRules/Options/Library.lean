import FieldRules.Options.Basic

/-!
# Options — Library

Settings and options are models of a library that is no part of this one. What
it does with them is given from outside, as three functions; a deployment is
such a library together with an environment.
-/

namespace FieldRules

/-- What a library of models does with the models of settings and options. -/
structure Library where
  /-- The spelling with capitals of a key that has low lines. -/
  camel : Value → Except Fault String
  /-- The settings of an environment. -/
  settings : Environment → Except Fault Settings
  /-- The options that sections stand for. The settings are asked for where an option that has one
  is not given. -/
  options : Except Fault Settings → Options.Sections → Except Fault RenderOptions

/-- Where a program runs: with which library, and in which environment. -/
structure Deployment where
  library : Library
  environment : Environment

/-- The settings of a deployment. -/
def Deployment.settings (d : Deployment) : Except Fault Settings :=
  d.library.settings d.environment

end FieldRules
