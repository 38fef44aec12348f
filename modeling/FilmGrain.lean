import FilmGrain.Files.Tree
import FilmGrain.Main
import FilmGrain.Proofs.Decimal.ReadBack
import FilmGrain.Proofs.Table.Reader
import FilmGrain.Proofs.Table.ReadBack
import FilmGrain.Proofs.Table.Runs
import FilmGrain.Proofs.Number.Magnitude
import FilmGrain.Proofs.Number.Order
import FilmGrain.Proofs.Number.Integral
import FilmGrain.Proofs.Scaling.Curve
import FilmGrain.Proofs.Scaling.Sampling
import FilmGrain.Proofs.Exact.Arithmetic
import FilmGrain.Proofs.Exact.Growth
import FilmGrain.Proofs.Exact.Joins
import FilmGrain.Proofs.Pass.Plan
import FilmGrain.Proofs.Pass.Run
import FilmGrain.Proofs.Files.Frame
import FilmGrain.Proofs.Pass.Frame
import FilmGrain.Proofs.CommandLine.Parsed
import FilmGrain.Proofs.CommandLine.Outcome
import FilmGrain.Proofs.Exact.Inverse
import FilmGrain.Proofs.Exact.RoundTrip
import FilmGrain.Proofs.Camera.Trade
import FilmGrain.Proofs.Exact.Rounded
import FilmGrain.Proofs.Number.PowersOfTwo
import FilmGrain.Proofs.Table.Written
import FilmGrain.Proofs.Table.InPlace
import FilmGrain.Proofs.Table.Pieces
import FilmGrain.Proofs.Number.Monotone
import FilmGrain.Proofs.Scaling.Amplitude
import FilmGrain.Proofs.Files.Names
import FilmGrain.Proofs.Pass.Named
import FilmGrain.Proofs.Scaling.Faults
import FilmGrain.Proofs.Camera.Checks
import FilmGrain.Proofs.Exact.Ratio
import FilmGrain.Proofs.Extended.Arithmetic
import FilmGrain.Proofs.Extended.Binary
import FilmGrain.Proofs.Extended.Light
import FilmGrain.Proofs.Number.HalfAway
import FilmGrain.Proofs.Scaling.Meeting
import FilmGrain.Proofs.Text.CaseFolding
import FilmGrain.Proofs.Tone.Lookup
import FilmGrain.Proofs.Exact.Domain
