import AtomicCss.OrderedMap
import AtomicCss.Settings
import AtomicCss.Value

/-! # Wrapped applications

A wrapper around an application has settings of its own and passes every other look-up on to
the application. -/

namespace AtomicCss.Response

/-- The settings of a wrapper and the attributes of the application inside. -/
structure Wrapper where
  settings : Settings
  inner : OrderedMap Value

/-- What an attribute of a wrapper holds. -/
inductive WrapperAttribute where
  | settings (settings : Settings)
  | value (value : Value)

/-- The name of the settings among the wrapper's own attributes. -/
def Wrapper.settingsName : Text := "config".toList

/-- What a wrapper says about itself. -/
def Wrapper.description : Text :=
  ("\n    Buffers text/html responses, compiles their inline styles into atomic\n" ++
    "    classes and injects the resulting <style> block.\n\n" ++
    "    Every response gets its own RenderPass, so concurrent requests never\n" ++
    "    share a stylesheet.\n    ").toList

/-- The wrapper's own attributes besides the settings. -/
def Wrapper.ownValues : OrderedMap Value :=
  [("__module__".toList, .text "headwind.middleware".toList),
    ("__doc__".toList, .text description), ("__weakref__".toList, .null)]

/-- The attribute with this name, the wrapper's own one first. -/
def Wrapper.attribute? (name : Text) (wrapper : Wrapper) : Option WrapperAttribute :=
  if name = settingsName then some (.settings wrapper.settings)
  else
    ((OrderedMap.get? name ownValues) <|> (OrderedMap.get? name wrapper.inner)).map .value

/-- The wording when neither the wrapper nor the application has an attribute. -/
def Wrapper.missingMessage (name : Text) : Text :=
  "'App' object has no attribute '".toList ++ name ++ ['\'']

end AtomicCss.Response
