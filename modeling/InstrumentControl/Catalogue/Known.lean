import InstrumentControl.Catalogue.Basic
import InstrumentControl.Model.B2902b
import InstrumentControl.Model.Dmm6500
import InstrumentControl.Model.Hmc8043
import InstrumentControl.Model.Hmf2550
import InstrumentControl.Model.Mc2000b
import InstrumentControl.Model.Mcls
import InstrumentControl.Model.MokuGo

/-! The models that the library knows. -/

namespace InstrumentControl.Catalogue

def known : Catalogue :=
  ofModels [B2902b.model, Dmm6500.model, Hmc8043.model, Hmf2550.model, Mc2000b.model, Mcls.model,
    MokuGo.model]

end InstrumentControl.Catalogue
