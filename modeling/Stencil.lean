import Stencil.Main
import Stencil.Proofs.Compilation.Distinction
import Stencil.Proofs.Token.Contract
import Stencil.Proofs.Token.Tokenize
import Stencil.Proofs.Token.Indexed
import Stencil.Proofs.Compilation.Truncation
import Stencil.Proofs.Compilation.Runs
import Stencil.Proofs.Template.Diagnosis
import Stencil.Proofs.Template.Concatenation
import Stencil.Proofs.Template.Printing
import Stencil.Proofs.Go.Routine
import Stencil.Proofs.Files.Search
import Stencil.Proofs.Generation.Regeneration
import Stencil.Proofs.Generation.Respelling
import Stencil.Proofs.Program.Account
import Stencil.Proofs.Config.Lines
