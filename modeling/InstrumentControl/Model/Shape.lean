import InstrumentControl.Parameter

/-! Shapes of parameters that occur in many command tables: readings, actions, and settings by SCPI
commands or by assignments. -/

namespace InstrumentControl

namespace Mapping

/-- Words for the tokens of a command. -/
def ofWords (pairs : List (String × String)) : Mapping :=
  ⟨pairs.map fun pair => (.text pair.1, pair.2)⟩

/-- Tokens that stand for themselves. -/
def ofTokens (tokens : List String) : Mapping := ofWords (tokens.map fun t => (t, t))

end Mapping

namespace Parameter

/-- The site of the value in a command. -/
def valueSite : String := Text.braced [Template.valueKey]

/-- A parameter that a query reads. -/
def reading (name label query : String) : Parameter where
  name
  label := some label
  getter := .query query

/-- A parameter that can only be set, by the given command. -/
def action (name label command : String) : Parameter where
  name
  label := some label
  setter := .template command

/-- A parameter that `command?` reads and `command x` sets to `x`. -/
def scpi (name label command : String) : Parameter :=
  { reading name label (command ++ "?") with setter := .template (command ++ " " ++ valueSite) }

/-- A parameter that `command?` reads and `command=x` sets to `x`. -/
def assigned (name label command : String) : Parameter :=
  { reading name label (command ++ "?") with setter := .template (command ++ "=" ++ valueSite) }

/-- A switch that `query` reads and `command` sets, to `ON` or `OFF`. -/
def switch (name label query command : String) : Parameter where
  name
  label := some label
  getter := .custom (switchState query)
  setter := .template (command ++ " " ++ valueSite)
  mapping := some .onOff

def inUnit (unit : String) (p : Parameter) : Parameter := { p with unit := some unit }

/-- The parameter with a mapping, unless it was given one without pairs before: that mark stays. -/
def mapped (m : Mapping) (p : Parameter) : Parameter :=
  if p.hasEmptyMapping then p else { p with mapping := some m }

def parsed (format : ResponseFormat) (p : Parameter) : Parameter := { p with format := some format }

/-- The parameter with values in `domain`, which are read in `format`. -/
def valued (domain : Domain) (format : ResponseFormat) (p : Parameter) : Parameter :=
  { p with domain := some domain, format := some format }

/-- The parameter with real values from `min` to `max`. -/
def within (min max : Float) (p : Parameter) : Parameter := p.valued (.numbers min max) .real

end Parameter

end InstrumentControl
