import VideoScaler.Component.Script
import VideoScaler.Main
import VideoScaler.Proofs.Conversion.Lossless
import VideoScaler.Proofs.Conversion.Window
import VideoScaler.Proofs.Filter.History
import VideoScaler.Proofs.Filter.HostFrame
import VideoScaler.Proofs.Filter.Lifecycle
import VideoScaler.Proofs.Filter.Payload
import VideoScaler.Workbench.Command
import VideoScaler.Proofs.Conversion.Exact
import VideoScaler.Proofs.Conversion.Repacking
import VideoScaler.Proofs.Filter.Unchanged
import VideoScaler.Proofs.Account.Balance
import VideoScaler.Proofs.Stage.Delivery
import VideoScaler.Proofs.Account.Media
import VideoScaler.Proofs.Dimensions.Bounds
import VideoScaler.Proofs.Dimensions.Shape
import VideoScaler.Proofs.Dimensions.Completion
import VideoScaler.Proofs.Dimensions.Overflow
import VideoScaler.Proofs.Component.Protocol
import VideoScaler.Proofs.Filter.Bridging
import VideoScaler.Proofs.Dimensions.Variables
import VideoScaler.Proofs.Dimensions.Evaluation
import VideoScaler.Proofs.Filter.Layout
import VideoScaler.Proofs.CommandLine.Reading
import VideoScaler.Proofs.CommandLine.Filtering
import VideoScaler.Proofs.CommandLine.Transfer
import VideoScaler.Proofs.Toml.Lines
import VideoScaler.Proofs.Config.RoundTrip
import VideoScaler.Proofs.Ratio.Terms
import VideoScaler.Proofs.Component.Polling
import VideoScaler.Proofs.Filter.Exchange
import VideoScaler.Proofs.Frame.Release
import VideoScaler.Proofs.Ratio.Display
import VideoScaler.Proofs.Ratio.Halving
import VideoScaler.Proofs.Filter.Copying
import VideoScaler.Proofs.Filter.Carrying
import VideoScaler.Proofs.Filter.Tagging
import VideoScaler.Proofs.Filter.Slices
import VideoScaler.Proofs.Filter.Preference
import VideoScaler.Proofs.Filter.Sizes
import VideoScaler.Proofs.Frame.RoundTrip
