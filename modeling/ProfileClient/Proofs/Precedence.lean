import ProfileClient.Program
import ProfileClient.Proofs.Arguments
import ProfileClient.Proofs.Settings.Fitting
import ProfileClient.Proofs.Settings.Grammar
/-!
Where the settings of a start come from. They put together the command line, the environment and the
file, in this order; a file that is not read to its end gives nothing.
-/
namespace ProfileClient

namespace Settings

end Settings

namespace Program

end Program
end ProfileClient
